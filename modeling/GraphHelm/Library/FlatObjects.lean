import GraphHelm.Library.Framing

/-!
# Flat objects as JSON text

An object whose members are numbers and texts, written without blanks and in a fixed
order. A reader that knows the names in their order reads it back, and refuses every
text that was cut short.
-/

namespace GraphHelm

inductive Scalar where
  | number (value : Nat)
  | text (value : String)
deriving DecidableEq

/-!
## Writing
-/

def lowerHexDigit (value : Nat) : Char :=
  Nat.digitChar value

/-- A character inside a JSON string. -/
def escapeChar (c : Char) : List Char :=
  if c = '"' then ['\\', '"']
  else if c = '\\' then ['\\', '\\']
  else if c = '\n' then ['\\', 'n']
  else if c = '\r' then ['\\', 'r']
  else if c = '\t' then ['\\', 't']
  else if c.toNat = 8 then ['\\', 'b']
  else if c.toNat = 12 then ['\\', 'f']
  else if c.toNat < 32 then
    ['\\', 'u', '0', '0', lowerHexDigit (c.toNat / 16), lowerHexDigit (c.toNat % 16)]
  else [c]

def quoted (text : String) : List Char :=
  '"' :: (text.toList.flatMap escapeChar ++ ['"'])

def Scalar.chars : Scalar -> List Char
  | .number value => Nat.toDigits 10 value
  | .text value => quoted value

def memberChars (entry : String × Scalar) : List Char :=
  quoted entry.1 ++ ':' :: entry.2.chars

def membersChars : List (String × Scalar) -> List Char
  | [] => []
  | [entry] => memberChars entry
  | entry :: other :: rest => memberChars entry ++ ',' :: membersChars (other :: rest)

/-- `serde_json::to_string` of a struct of numbers and strings. -/
def flatText (entries : List (String × Scalar)) : String :=
  String.ofList ('{' :: (membersChars entries ++ ['}']))

/-!
## Reading
-/

/-- What stands before the closing quote, and what follows it. -/
def readQuoted : List Char -> Option (List Char × List Char)
  | [] => none
  | '"' :: rest => some ([], rest)
  | '\\' :: '"' :: rest => (readQuoted rest).map fun read => ('"' :: read.1, read.2)
  | '\\' :: '\\' :: rest => (readQuoted rest).map fun read => ('\\' :: read.1, read.2)
  | '\\' :: _ => none
  | c :: rest => (readQuoted rest).map fun read => (c :: read.1, read.2)

def readText : List Char -> Option (String × List Char)
  | '"' :: rest => (readQuoted rest).map fun read => (String.ofList read.1, read.2)
  | _ => none

def readNumber (chars : List Char) : Option (Nat × List Char) :=
  let digits := chars.takeWhile Char.isDigit
  if digits = [] then none
  else some (Nat.ofDigitChars 10 digits 0, chars.dropWhile Char.isDigit)

def readScalar (chars : List Char) : Option (Scalar × List Char) :=
  match readText chars with
  | some (value, rest) => some (.text value, rest)
  | none => (readNumber chars).map fun read => (.number read.1, read.2)

def expect (c : Char) : List Char -> Option (List Char)
  | [] => none
  | d :: rest => if d = c then some rest else none

def readMember (name : String) (chars : List Char) : Option (Scalar × List Char) := do
  let (found, rest) <- readText chars
  if found = name then
    let rest <- expect ':' rest
    readScalar rest
  else none

def readMembers : List String -> List Char -> Option (List Scalar × List Char)
  | [], chars => some ([], chars)
  | [name], chars => (readMember name chars).map fun read => ([read.1], read.2)
  | name :: other :: names, chars => do
      let (value, rest) <- readMember name chars
      let rest <- expect ',' rest
      let (values, rest) <- readMembers (other :: names) rest
      some (value :: values, rest)

def readFlat (names : List String) (text : List Char) : Option (List Scalar) := do
  let rest <- expect '{' text
  let (values, rest) <- readMembers names rest
  if rest = ['}'] then some values else none

/-!
## What was written is read
-/

/-- No character of the text is a control character. -/
def Plain (text : String) : Prop :=
  forall c, c ∈ text.toList -> 32 <= c.toNat

variable {c : Char} {rest chars more : List Char} {text : String}

theorem readQuoted_cons (hquote : c ≠ '"') (hslash : c ≠ '\\') :
    readQuoted (c :: rest) = (readQuoted rest).map fun read => (c :: read.1, read.2) := by
  conv_lhs => unfold readQuoted
  split
  · rename_i heq
    cases heq
  · rename_i heq
    cases heq
    exact absurd rfl hquote
  · rename_i heq
    cases heq
    exact absurd rfl hslash
  · rename_i heq
    cases heq
    exact absurd rfl hslash
  · rename_i heq
    cases heq
    exact absurd rfl hslash
  · rename_i heq
    cases heq
    rfl

theorem escapeChar_of_plain (h : 32 <= c.toNat) (hquote : c ≠ '"') (hslash : c ≠ '\\') :
    escapeChar c = [c] := by
  have hnewline : c ≠ '\n' := fun heq => absurd h (by rw [heq]; decide)
  have hreturn : c ≠ '\r' := fun heq => absurd h (by rw [heq]; decide)
  have htab : c ≠ '\t' := fun heq => absurd h (by rw [heq]; decide)
  have hback : c.toNat ≠ 8 := by omega
  have hfeed : c.toNat ≠ 12 := by omega
  unfold escapeChar
  rw [if_neg hquote, if_neg hslash, if_neg hnewline, if_neg hreturn, if_neg htab, if_neg hback,
    if_neg hfeed, if_neg (Nat.not_lt.mpr h)]

theorem readQuoted_escape (h : forall c, c ∈ chars -> 32 <= c.toNat) :
    readQuoted (chars.flatMap escapeChar ++ '"' :: rest) = some (chars, rest) := by
  induction chars with
  | nil =>
      rfl
  | cons c later ih =>
      have hlater := ih fun d hd => h d (List.mem_cons_of_mem c hd)
      rw [List.flatMap_cons, List.append_assoc]
      by_cases hquote : c = '"'
      · subst hquote
        change (readQuoted (later.flatMap escapeChar ++ '"' :: rest)).map _ = _
        rw [hlater]
        rfl
      · by_cases hslash : c = '\\'
        · subst hslash
          change (readQuoted (later.flatMap escapeChar ++ '"' :: rest)).map _ = _
          rw [hlater]
          rfl
        · rw [escapeChar_of_plain (h c List.mem_cons_self) hquote hslash, List.singleton_append,
            readQuoted_cons hquote hslash, hlater]
          rfl

theorem readText_quoted (h : Plain text) :
    readText (quoted text ++ rest) = some (text, rest) := by
  unfold quoted
  rw [List.cons_append, List.append_assoc, List.singleton_append]
  change (readQuoted _).map _ = _
  rw [readQuoted_escape h, Option.map_some, String.ofList_toList]

theorem isDigit_toDigits (value : Nat) :
    forall c, c ∈ Nat.toDigits 10 value -> c.isDigit = true :=
  fun _ hc => Nat.isDigit_of_mem_toDigits (by decide) (by decide) hc

/-- What follows a number does not go on with it. -/
def EndsNumber (rest : List Char) : Prop :=
  forall c, rest.head? = some c -> c.isDigit = false

theorem readNumber_toDigits {value : Nat} (h : EndsNumber rest) :
    readNumber (Nat.toDigits 10 value ++ rest) = some (value, rest) := by
  have hdigits := isDigit_toDigits value
  have htake : (Nat.toDigits 10 value ++ rest).takeWhile Char.isDigit = Nat.toDigits 10 value := by
    rw [List.takeWhile_append_of_pos hdigits]
    cases rest with
    | nil =>
        simp
    | cons c later =>
        rw [List.takeWhile_cons_of_neg (by rw [h c rfl]; decide), List.append_nil]
  have hdrop : (Nat.toDigits 10 value ++ rest).dropWhile Char.isDigit = rest := by
    rw [List.dropWhile_append_of_pos hdigits]
    cases rest with
    | nil =>
        rfl
    | cons c later =>
        rw [List.dropWhile_cons_of_neg (by rw [h c rfl]; decide)]
  unfold readNumber
  simp only [htake, hdrop]
  rw [if_neg Nat.toDigits_ne_nil, Nat.ofDigitChars_ten_toDigits]

def Scalar.Plain : Scalar -> Prop
  | .number _ => True
  | .text value => GraphHelm.Plain value

theorem readText_toDigits {value : Nat} :
    readText (Nat.toDigits 10 value ++ rest) = none := by
  cases hdigits : Nat.toDigits 10 value with
  | nil =>
      exact absurd hdigits Nat.toDigits_ne_nil
  | cons c later =>
      have hc : c.isDigit = true := isDigit_toDigits value c (hdigits ▸ List.mem_cons_self)
      have hquote : c ≠ '"' := by
        rintro rfl
        exact absurd hc (by decide)
      rw [List.cons_append]
      unfold readText
      split
      · rename_i heq
        exact absurd (List.cons.inj heq).left hquote
      · rfl

theorem readScalar_chars {value : Scalar} (hplain : value.Plain) (hends : EndsNumber rest) :
    readScalar (value.chars ++ rest) = some (value, rest) := by
  cases value with
  | number value =>
      unfold readScalar Scalar.chars
      rw [readText_toDigits, readNumber_toDigits hends]
      rfl
  | text value =>
      unfold readScalar Scalar.chars
      rw [readText_quoted hplain]

theorem readMember_chars {entry : String × Scalar} (hname : Plain entry.1)
    (hplain : entry.2.Plain) (hends : EndsNumber rest) :
    readMember entry.1 (memberChars entry ++ rest) = some (entry.2, rest) := by
  unfold readMember memberChars
  rw [List.append_assoc, readText_quoted hname, List.cons_append]
  change (if entry.1 = entry.1 then (expect ':' (':' :: (entry.2.chars ++ rest))).bind _ else none) =
    _
  rw [if_pos rfl]
  exact readScalar_chars hplain hends

def PlainMembers (entries : List (String × Scalar)) : Prop :=
  forall entry, entry ∈ entries -> Plain entry.1 ∧ entry.2.Plain

variable {entries : List (String × Scalar)}

theorem readMembers_chars (hplain : PlainMembers entries) (hends : EndsNumber rest) :
    readMembers (entries.map Prod.fst) (membersChars entries ++ rest) =
      some (entries.map Prod.snd, rest) := by
  induction entries with
  | nil =>
      rfl
  | cons entry later ih =>
      have hentry := hplain entry List.mem_cons_self
      cases later with
      | nil =>
          change (readMember entry.1 (memberChars entry ++ rest)).map _ = _
          rw [readMember_chars hentry.left hentry.right hends]
          rfl
      | cons other others =>
          have hlater := ih fun e he => hplain e (List.mem_cons_of_mem entry he)
          have hcomma : EndsNumber (',' :: (membersChars (other :: others) ++ rest)) := by
            intro c hc
            cases hc
            rfl
          change (readMember entry.1 ((memberChars entry ++ ',' :: membersChars (other :: others)) ++
            rest)).bind _ = _
          rw [List.append_assoc, List.cons_append,
            readMember_chars hentry.left hentry.right hcomma]
          change (readMembers ((other :: others).map Prod.fst)
            (membersChars (other :: others) ++ rest)).bind _ = _
          rw [hlater]
          rfl

theorem readFlat_flatText (h : PlainMembers entries) :
    readFlat (entries.map Prod.fst) (flatText entries).toList = some (entries.map Prod.snd) := by
  have hends : EndsNumber ['}'] := by
    intro c hc
    cases hc
    rfl
  unfold readFlat flatText
  rw [String.toList_ofList]
  change (readMembers _ (membersChars entries ++ ['}'])).bind _ = _
  rw [readMembers_chars h hends]
  rfl

/-!
## What was cut short is not
-/

theorem readQuoted_append {read : List Char × List Char} (h : readQuoted chars = some read) :
    readQuoted (chars ++ more) = some (read.1, read.2 ++ more) := by
  fun_induction readQuoted chars generalizing read with
  | case1 => cases h
  | case2 rest =>
      cases h
      rfl
  | case3 rest ih =>
      rcases Option.map_eq_some_iff.mp h with ⟨later, hlater, rfl⟩
      change (readQuoted (rest ++ more)).map _ = _
      rw [ih hlater]
      rfl
  | case4 rest ih =>
      rcases Option.map_eq_some_iff.mp h with ⟨later, hlater, rfl⟩
      change (readQuoted (rest ++ more)).map _ = _
      rw [ih hlater]
      rfl
  | case5 => cases h
  | case6 c rest hquote _ _ hslash ih =>
      rcases Option.map_eq_some_iff.mp h with ⟨later, hlater, rfl⟩
      rw [List.cons_append, readQuoted_cons, ih hlater]
      · rfl
      · exact hquote
      · exact hslash

theorem readText_append {read : String × List Char} (h : readText chars = some read) :
    readText (chars ++ more) = some (read.1, read.2 ++ more) := by
  unfold readText at h
  split at h
  · rename_i rest
    rcases Option.map_eq_some_iff.mp h with ⟨later, hlater, rfl⟩
    change (readQuoted (rest ++ more)).map _ = _
    rw [readQuoted_append hlater]
    rfl
  · cases h

theorem readNumber_append {read : Nat × List Char} (h : readNumber chars = some read)
    (hrest : read.2 ≠ []) :
    readNumber (chars ++ more) = some (read.1, read.2 ++ more) := by
  unfold readNumber at h
  simp only at h
  split at h
  · cases h
  · rename_i hdigits
    cases h
    have htake : (chars ++ more).takeWhile Char.isDigit = chars.takeWhile Char.isDigit := by
      rw [List.takeWhile_append, if_neg]
      intro hall
      have hlengths := congrArg List.length
        (@List.takeWhile_append_dropWhile Char Char.isDigit chars)
      rw [List.length_append, hall] at hlengths
      have hnil : (chars.dropWhile Char.isDigit).length = 0 := by omega
      exact hrest (List.length_eq_zero_iff.mp hnil)
    have hdrop : (chars ++ more).dropWhile Char.isDigit =
        chars.dropWhile Char.isDigit ++ more := by
      rw [List.dropWhile_append, if_neg]
      intro hempty
      exact hrest (List.isEmpty_iff.mp hempty)
    unfold readNumber
    simp only [htake, hdrop]
    rw [if_neg hdigits]

theorem readText_eq_none_append {read : Nat × List Char} (h : readNumber chars = some read) :
    readText (chars ++ more) = none := by
  cases chars with
  | nil =>
      cases h
  | cons c rest =>
      by_cases hquote : c = '"'
      · subst hquote
        cases h
      · rw [List.cons_append]
        unfold readText
        split
        · rename_i heq
          exact absurd (List.cons.inj heq).left hquote
        · rfl

theorem readScalar_append {read : Scalar × List Char} (h : readScalar chars = some read)
    (hrest : read.2 ≠ []) :
    readScalar (chars ++ more) = some (read.1, read.2 ++ more) := by
  unfold readScalar at h
  split at h
  · rename_i value rest htext
    cases h
    unfold readScalar
    rw [readText_append htext]
  · rcases Option.map_eq_some_iff.mp h with ⟨number, hnumber, rfl⟩
    unfold readScalar
    rw [readText_eq_none_append hnumber, readNumber_append hnumber hrest]
    rfl

theorem expect_append (h : expect c chars = some rest) :
    expect c (chars ++ more) = some (rest ++ more) := by
  cases chars with
  | nil =>
      cases h
  | cons d later =>
      rw [List.cons_append]
      simp only [expect] at h ⊢
      by_cases hd : d = c
      · rw [if_pos hd] at h ⊢
        cases h
        rfl
      · rw [if_neg hd] at h
        cases h

theorem readMember_append {name : String} {read : Scalar × List Char}
    (h : readMember name chars = some read) (hrest : read.2 ≠ []) :
    readMember name (chars ++ more) = some (read.1, read.2 ++ more) := by
  unfold readMember at h
  rcases Option.bind_eq_some_iff.mp h with ⟨⟨found, afterName⟩, htext, h⟩
  simp only at h
  split at h
  · rename_i hfound
    rcases Option.bind_eq_some_iff.mp h with ⟨afterColon, hcolon, hvalue⟩
    unfold readMember
    rw [readText_append htext]
    change (if found = name then (expect ':' (afterName ++ more)).bind _ else none) = _
    rw [if_pos hfound, expect_append hcolon]
    exact readScalar_append hvalue hrest
  · cases h

theorem readMembers_append {names : List String} {read : List Scalar × List Char}
    (h : readMembers names chars = some read) (hrest : read.2 ≠ []) :
    readMembers names (chars ++ more) = some (read.1, read.2 ++ more) := by
  fun_induction readMembers names chars generalizing read with
  | case1 chars =>
      cases h
      rfl
  | case2 name chars =>
      rcases Option.map_eq_some_iff.mp h with ⟨member, hmember, rfl⟩
      change (readMember name (chars ++ more)).map _ = _
      rw [readMember_append hmember hrest]
      rfl
  | case3 name other names chars ih =>
      rcases Option.bind_eq_some_iff.mp h with ⟨⟨value, afterValue⟩, hmember, h⟩
      rcases Option.bind_eq_some_iff.mp h with ⟨afterComma, hcomma, h⟩
      rcases Option.bind_eq_some_iff.mp h with ⟨⟨values, rest⟩, hvalues, h⟩
      cases h
      have hafterValue : afterValue ≠ [] := by
        rintro rfl
        cases hcomma
      change (readMember name (chars ++ more)).bind _ = _
      rw [readMember_append hmember hafterValue]
      change (expect ',' (afterValue ++ more)).bind _ = _
      rw [expect_append hcomma]
      change (readMembers (other :: names) (afterComma ++ more)).bind _ = _
      rw [ih afterComma hvalues hrest]
      rfl

theorem readFlat_append {names : List String} {text : List Char} {values : List Scalar}
    (h : readFlat names text = some values) (hmore : more ≠ []) :
    readFlat names (text ++ more) = none := by
  unfold readFlat at h
  rcases Option.bind_eq_some_iff.mp h with ⟨inner, hbrace, h⟩
  rcases Option.bind_eq_some_iff.mp h with ⟨⟨found, rest⟩, hmembers, h⟩
  simp only at h
  split at h
  · rename_i hrest
    subst hrest
    unfold readFlat
    rw [expect_append hbrace]
    change (readMembers names (inner ++ more)).bind _ = _
    rw [readMembers_append hmembers (List.cons_ne_nil _ _)]
    change (if ['}'] ++ more = ['}'] then some found else none) = none
    rw [if_neg]
    intro heq
    exact hmore (List.append_right_eq_self.mp heq)
  · cases h

theorem readFlat_take (h : PlainMembers entries) {cut : Nat}
    (hcut : cut < (flatText entries).toList.length) :
    readFlat (entries.map Prod.fst) ((flatText entries).toList.take cut) = none := by
  cases hread : readFlat (entries.map Prod.fst) ((flatText entries).toList.take cut) with
  | none =>
      rfl
  | some values =>
      have hmore : (flatText entries).toList.drop cut ≠ [] := by
        intro hnil
        have hlength := List.drop_eq_nil_iff.mp hnil
        omega
      have hnone := readFlat_append hread hmore
      rw [List.take_append_drop, readFlat_flatText h] at hnone
      cases hnone

/-!
## As bytes
-/

/-- ASCII characters that are not control characters. -/
def Graphic (chars : List Char) : Prop :=
  forall c, c ∈ chars -> 32 <= c.toNat ∧ c.toNat < 128

instance (chars : List Char) : Decidable (Graphic chars) :=
  List.decidableBAll (fun c : Char => 32 <= c.toNat ∧ c.toNat < 128) chars

theorem Graphic.plain (h : Graphic text.toList) : Plain text :=
  fun c hc => (h c hc).left

theorem Graphic.append {first second : List Char} (h : Graphic first) (h' : Graphic second) :
    Graphic (first ++ second) := by
  intro c hc
  rcases List.mem_append.mp hc with hmem | hmem
  · exact h c hmem
  · exact h' c hmem

theorem Graphic.cons {c : Char} {rest : List Char} (hc : 32 <= c.toNat ∧ c.toNat < 128)
    (h : Graphic rest) : Graphic (c :: rest) := by
  intro d hd
  rcases List.mem_cons.mp hd with heq | hmem
  · rw [heq]
    exact hc
  · exact h d hmem

theorem mem_escapeChar {d : Char} (hplain : 32 <= c.toNat) (h : d ∈ escapeChar c) :
    d = c ∨ d = '\\' := by
  by_cases hquote : c = '"'
  · subst hquote
    rcases List.mem_cons.mp h with heq | hmem
    · exact Or.inr heq
    · exact Or.inl (List.mem_singleton.mp hmem)
  · by_cases hslash : c = '\\'
    · subst hslash
      rcases List.mem_cons.mp h with heq | hmem
      · exact Or.inr heq
      · exact Or.inr (List.mem_singleton.mp hmem)
    · rw [escapeChar_of_plain hplain hquote hslash] at h
      exact Or.inl (List.mem_singleton.mp h)

theorem graphic_quoted (h : Graphic text.toList) : Graphic (quoted text) := by
  apply Graphic.cons (by decide)
  apply Graphic.append
  · intro d hd
    rcases List.mem_flatMap.mp hd with ⟨c, hc, hmem⟩
    rcases mem_escapeChar (h c hc).left hmem with heq | heq
    · rw [heq]
      exact h c hc
    · rw [heq]
      decide
  · exact Graphic.cons (by decide) fun c hc => absurd hc List.not_mem_nil

theorem graphic_toDigits (value : Nat) : Graphic (Nat.toDigits 10 value) := by
  intro c hc
  have hdigit := isDigit_toDigits value c hc
  unfold Char.isDigit at hdigit
  simp only [ge_iff_le, Bool.and_eq_true, decide_eq_true_eq] at hdigit
  have hlow : 48 <= c.val.toNat := hdigit.left
  have hhigh : c.val.toNat <= 57 := hdigit.right
  constructor
  · exact Nat.le_trans (by decide) hlow
  · exact Nat.lt_of_le_of_lt hhigh (by decide)

def Scalar.Graphic : Scalar -> Prop
  | .number _ => True
  | .text value => GraphHelm.Graphic value.toList

def GraphicMembers (entries : List (String × Scalar)) : Prop :=
  forall entry, entry ∈ entries -> Graphic entry.1.toList ∧ entry.2.Graphic

theorem GraphicMembers.plain (h : GraphicMembers entries) :
    PlainMembers entries := by
  intro entry hentry
  rcases h entry hentry with ⟨hname, hvalue⟩
  refine ⟨hname.plain, ?_⟩
  cases hscalar : entry.2 with
  | number value =>
      trivial
  | text value =>
      rw [hscalar] at hvalue
      exact Graphic.plain hvalue

theorem graphic_memberChars {entry : String × Scalar} (hname : Graphic entry.1.toList)
    (hvalue : entry.2.Graphic) : Graphic (memberChars entry) := by
  unfold memberChars
  apply (graphic_quoted hname).append
  apply Graphic.cons (by decide)
  cases hscalar : entry.2 with
  | number value =>
      exact graphic_toDigits value
  | text value =>
      rw [hscalar] at hvalue
      exact graphic_quoted hvalue

theorem graphic_membersChars (h : GraphicMembers entries) :
    Graphic (membersChars entries) := by
  induction entries with
  | nil =>
      exact fun c hc => absurd hc List.not_mem_nil
  | cons entry later ih =>
      rcases h entry List.mem_cons_self with ⟨hname, hvalue⟩
      have hhead := graphic_memberChars hname hvalue
      have hlater := ih fun e he => h e (List.mem_cons_of_mem entry he)
      cases later with
      | nil =>
          exact hhead
      | cons other others =>
          exact hhead.append (Graphic.cons (by decide) hlater)

theorem graphic_flatText (h : GraphicMembers entries) :
    Graphic (flatText entries).toList := by
  unfold flatText
  rw [String.toList_ofList]
  apply Graphic.cons (by decide)
  apply (graphic_membersChars h).append
  exact Graphic.cons (by decide) fun c hc => absurd hc List.not_mem_nil

theorem length_escapeChar_le (h : 32 <= c.toNat) : (escapeChar c).length <= 2 := by
  by_cases hquote : c = '"'
  · subst hquote
    decide
  · by_cases hslash : c = '\\'
    · subst hslash
      decide
    · rw [escapeChar_of_plain h hquote hslash]
      exact Nat.le_succ 1

theorem length_quoted_le (h : Plain text) :
    (quoted text).length <= 2 * text.toList.length + 2 := by
  have hescaped : forall chars : List Char, (forall c, c ∈ chars -> 32 <= c.toNat) ->
      (chars.flatMap escapeChar).length <= 2 * chars.length := by
    intro chars hchars
    induction chars with
    | nil =>
        exact Nat.le_refl _
    | cons c rest ih =>
        have hc := length_escapeChar_le (hchars c List.mem_cons_self)
        have hrest := ih fun d hd => hchars d (List.mem_cons_of_mem c hd)
        rw [List.flatMap_cons, List.length_append, List.length_cons]
        omega
  have htext := hescaped text.toList h
  unfold quoted
  rw [List.length_cons, List.length_append, List.length_singleton]
  omega

theorem utf8_of_graphic (h : Graphic text.toList) :
    utf8 text = text.toList.map fun c => UInt8.ofNat c.toNat := by
  unfold utf8
  rw [List.map_eq_flatMap]
  apply List.flatMap_congr
  intro c hc
  have hsize : c.val.toNat <= 127 := by
    have hlt := (h c hc).right
    change c.val.toNat < 128 at hlt
    omega
  unfold String.utf8EncodeChar
  simp only [hsize, if_true]
  rfl

theorem newline_not_mem_utf8 (h : Graphic text.toList) :
    newline ∉ utf8 text := by
  rw [utf8_of_graphic h]
  intro hmem
  rcases List.mem_map.mp hmem with ⟨c, hc, heq⟩
  have hbounds := h c hc
  have hnat := congrArg UInt8.toNat heq
  rw [UInt8.toNat_ofNat'] at hnat
  have hten : newline.toNat = 10 := rfl
  omega

def asciiChars (bytes : Bytes) : List Char :=
  bytes.map fun byte => Char.ofNat byte.toNat

theorem asciiChars_utf8 (h : Graphic text.toList) :
    asciiChars (utf8 text) = text.toList := by
  unfold asciiChars
  rw [utf8_of_graphic h, List.map_map]
  conv_rhs => rw [← List.map_id text.toList]
  apply List.map_congr_left
  intro c hc
  have hbounds := h c hc
  change Char.ofNat (UInt8.ofNat c.toNat).toNat = c
  rw [UInt8.toNat_ofNat', Nat.mod_eq_of_lt (by omega), Char.ofNat_toNat]

end GraphHelm
