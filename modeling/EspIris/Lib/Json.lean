import Mathlib.Tactic.Common

/-! JSON values without objects, and their text: each value has one text, and no two values have the same. -/

namespace EspIris.JsonText
variable {letter : Char} {rest more : List Char}

/-- The shortest text of a finite floating-point number, which a point or an exponent tells from an integer. -/
structure FloatText where
  text : List Char
  alphabet : ∀ letter ∈ text, letter.isDigit = true ∨ letter ∈ ['-', '+', '.', 'e']
  marked : '.' ∈ text ∨ 'e' ∈ text

theorem FloatText.ext {value other : FloatText} (same : value.text = other.text) : value = other := by
  cases value
  cases other
  cases same
  rfl

/-- The values that are words or numbers. -/
inductive Literal
  | null
  | bool (value : Bool)
  | int (value : Int)
  | float (value : FloatText)

inductive Json
  | literal (value : Literal)
  | str (text : String)
  | array (items : List Json)

def intText : Int → List Char
  | .ofNat value => Nat.toDigits 10 value
  | .negSucc value => '-' :: Nat.toDigits 10 (value + 1)

def Literal.text : Literal → List Char
  | null => ['n', 'u', 'l', 'l']
  | bool true => ['t', 'r', 'u', 'e']
  | bool false => ['f', 'a', 'l', 's', 'e']
  | int value => intText value
  | float value => value.text

def quotation : Char := Char.ofNat 0x22
def backslash : Char := Char.ofNat 0x5c

/-- The letters that a text may not contain as they are. -/
def special : List Char := quotation :: backslash :: (List.range 0x20).map Char.ofNat

def hexDigit (value : Nat) : Char := Nat.digitChar (value % 16)

/-- A letter of a text between quotation marks, when other letters than those of ASCII stay as they are. -/
def escape (letter : Char) : List Char :=
  if letter = quotation ∨ letter = backslash then [backslash, letter]
  else if letter = Char.ofNat 0x0a then [backslash, 'n']
  else if letter = Char.ofNat 0x0d then [backslash, 'r']
  else if letter = Char.ofNat 0x09 then [backslash, 't']
  else if letter = Char.ofNat 0x0c then [backslash, 'f']
  else if letter = Char.ofNat 0x08 then [backslash, 'b']
  else if letter ∈ special then [backslash, 'u', '0', '0', hexDigit (letter.toNat / 16), hexDigit letter.toNat]
  else [letter]

def quoted (text : String) : List Char := quotation :: text.toList.flatMap escape ++ [quotation]

mutual

/-- The text without blanks. -/
def render : Json → List Char
  | .literal value => value.text
  | .str text => quoted text
  | .array [] => ['[', ']']
  | .array (item :: items) => '[' :: render item ++ renderRest items

/-- What follows an item of an array. -/
def renderRest : List Json → List Char
  | [] => [']']
  | item :: items => ',' :: render item ++ renderRest items

end

variable {value other : Literal}

section literals

/-- What was checked letter by letter. -/
theorem of_all {letters : List Char} {holds : Char → Prop} [DecidablePred holds]
    (checked : (letters.all fun letter => decide (holds letter)) = true) : ∀ letter ∈ letters, holds letter :=
  fun letter member => of_decide_eq_true (List.all_eq_true.mp checked letter member)

theorem toDigits_inj {value other : Nat} (same : Nat.toDigits 10 value = Nat.toDigits 10 other) : value = other := by
  rw [← Nat.ofDigitChars_ten_toDigits (n := value), same, Nat.ofDigitChars_ten_toDigits]

theorem toDigits_isDigit {value : Nat} (member : letter ∈ Nat.toDigits 10 value) :
    letter.isDigit = true :=
  Nat.isDigit_of_mem_toDigits (by decide) (by decide) member

theorem intText_letters {value : Int} (member : letter ∈ intText value) :
    letter.isDigit = true ∨ letter = '-' := by
  cases value with
  | ofNat value => exact .inl (toDigits_isDigit member)
  | negSucc value =>
    rcases List.mem_cons.mp member with rfl | digit
    · exact .inr rfl
    · exact .inl (toDigits_isDigit digit)

theorem intText_inj {value other : Int} (same : intText value = intText other) : value = other := by
  cases value <;> cases other
  case ofNat.ofNat value other => rw [toDigits_inj same]
  case ofNat.negSucc value other =>
    have digit : '-'.isDigit = true := toDigits_isDigit (by
      change '-' ∈ intText (.ofNat value)
      rw [same]
      exact List.mem_cons_self)
    contradiction
  case negSucc.ofNat value other =>
    have digit : '-'.isDigit = true := toDigits_isDigit (by
      change '-' ∈ intText (.ofNat other)
      rw [← same]
      exact List.mem_cons_self)
    contradiction
  case negSucc.negSucc value other =>
    have digits := toDigits_inj (List.cons.inj same).2
    rw [Nat.succ.inj digits]

namespace Literal

def IsWord (value : Literal) : Prop := value = .null ∨ value = .bool true ∨ value = .bool false
def IsNumber (value : Literal) : Prop := (∃ number, value = .int number) ∨ ∃ number, value = .float number

theorem word_or_number (value : Literal) : value.IsWord ∨ value.IsNumber := by
  cases value with
  | null => exact .inl (.inl rfl)
  | bool value =>
    cases value with
    | false => exact .inl (.inr (.inr rfl))
    | true => exact .inl (.inr (.inl rfl))
  | int number => exact .inr (.inl ⟨number, rfl⟩)
  | float number => exact .inr (.inr ⟨number, rfl⟩)

theorem number_letters (number : value.IsNumber) (member : letter ∈ value.text) :
    letter.isDigit = true ∨ letter ∈ ['-', '+', '.', 'e'] := by
  rcases number with ⟨number, rfl⟩ | ⟨number, rfl⟩
  · rcases intText_letters member with digit | rfl
    · exact .inl digit
    · exact .inr (by decide)
  · exact number.alphabet letter member

/-- A word has a letter that no number has. -/
theorem word_ne_number (word : value.IsWord) (number : other.IsNumber) :
    value.text ≠ other.text := by
  have foreign : ∃ letter ∈ value.text, letter.isDigit = false ∧ letter ∉ ['-', '+', '.', 'e'] := by
    rcases word with rfl | rfl | rfl
    · exact ⟨'u', by decide⟩
    · exact ⟨'u', by decide⟩
    · exact ⟨'l', by decide⟩
  obtain ⟨letter, member, digit, sign⟩ := foreign
  intro same
  rw [same] at member
  rcases number_letters number member with isDigit | isSign
  · exact Bool.false_ne_true (digit.symm.trans isDigit)
  · exact sign isSign

/-- An integer is not written like a floating-point number. -/
theorem int_ne_float (number : Int) (other : FloatText) : intText number ≠ other.text := by
  have foreign : ∃ letter ∈ other.text, letter.isDigit = false ∧ letter ≠ '-' := by
    rcases other.marked with point | exponent
    · exact ⟨'.', point, by decide⟩
    · exact ⟨'e', exponent, by decide⟩
  obtain ⟨letter, member, digit, sign⟩ := foreign
  intro same
  rw [← same] at member
  rcases intText_letters member with isDigit | isSign
  · exact Bool.false_ne_true (digit.symm.trans isDigit)
  · exact sign isSign

theorem text_inj (same : value.text = other.text) : value = other := by
  rcases value.word_or_number with word | number <;> rcases other.word_or_number with word' | number'
  · rcases word with rfl | rfl | rfl <;> rcases word' with rfl | rfl | rfl <;>
      first | rfl | exact absurd same (by decide)
  · exact absurd same (word_ne_number word number')
  · exact absurd same.symm (word_ne_number word' number)
  · rcases number with ⟨first, rfl⟩ | ⟨first, rfl⟩ <;> rcases number' with ⟨second, rfl⟩ | ⟨second, rfl⟩
    · rw [intText_inj same]
    · exact absurd same (int_ne_float _ _)
    · exact absurd same.symm (int_ne_float _ _)
    · rw [FloatText.ext same]

/-- No word and no number has a letter that ends a value or begins another one. -/
theorem letters (member : letter ∈ value.text) :
    letter ∉ [',', ']', '[', quotation] := by
  have plain : ∀ other ∈ [',', ']', '[', quotation], other.isDigit = false ∧ other ∉ ['-', '+', '.', 'e'] :=
    of_all (by decide)
  intro ends
  obtain ⟨digit, sign⟩ := plain letter ends
  rcases value.word_or_number with word | number
  · have apart : ∀ other ∈ value.text, other ∉ [',', ']', '[', quotation] := by
      rcases word with rfl | rfl | rfl <;> exact of_all (by decide)
    exact apart letter member ends
  · rcases number_letters number member with isDigit | isSign
    · exact Bool.false_ne_true (digit.symm.trans isDigit)
    · exact sign isSign

end Literal

end literals

section quoted

theorem escape_plain (plain : letter ∉ special) : escape letter = [letter] := by
  have apart : ∀ other ∈ special, letter ≠ other := fun other member same => plain (same ▸ member)
  unfold escape
  rw [if_neg (not_or.mpr ⟨apart _ (by decide), apart _ (by decide)⟩), if_neg (apart _ (by decide)),
    if_neg (apart _ (by decide)), if_neg (apart _ (by decide)), if_neg (apart _ (by decide)),
    if_neg (apart _ (by decide)), if_neg plain]

theorem escape_special (member : letter ∈ special) : (escape letter).head? = some backslash := by
  have each : ∀ letter ∈ special, (escape letter).head? = some backslash := of_all (by decide +kernel)
  exact each letter member

theorem escape_head (letter : Char) : ∃ first rest, escape letter = first :: rest ∧ first ≠ quotation := by
  by_cases member : letter ∈ special
  · obtain ⟨rest, shape⟩ := List.head?_eq_some_iff.mp (escape_special member)
    exact ⟨backslash, rest, shape, by decide⟩
  · exact ⟨letter, [], escape_plain member, fun same => member (same ▸ List.mem_cons_self)⟩

/-- No escaped letter begins like another. -/
theorem escape_begins {letter other : Char} (member : letter ∈ special) (isOther : other ∈ special)
    (begins : escape letter <+: escape other) : letter = other := by
  have each : (special.all fun letter => special.all fun other =>
      decide (escape letter <+: escape other → letter = other)) = true := by decide +kernel
  exact of_all (List.all_eq_true.mp each letter member) other isOther begins

theorem escape_inj {letter other : Char} (same : escape letter ++ rest = escape other ++ more) :
    letter = other ∧ rest = more := by
  suffices equal : letter = other by
    subst equal
    exact ⟨rfl, List.append_cancel_left same⟩
  by_cases member : letter ∈ special <;> by_cases isOther : other ∈ special
  · have here : escape letter <+: escape other ++ more := ⟨rest, same⟩
    rcases List.prefix_or_prefix_of_prefix here (List.prefix_append _ _) with begins | begins
    · exact escape_begins member isOther begins
    · exact (escape_begins isOther member begins).symm
  · obtain ⟨_, shape⟩ := List.head?_eq_some_iff.mp (escape_special member)
    rw [shape, escape_plain isOther] at same
    exact absurd (List.cons.inj same).1 fun here => isOther (here ▸ by decide)
  · obtain ⟨_, shape⟩ := List.head?_eq_some_iff.mp (escape_special isOther)
    rw [shape, escape_plain member] at same
    exact absurd (List.cons.inj same).1.symm fun here => member (here ▸ by decide)
  · rw [escape_plain member, escape_plain isOther] at same
    exact (List.cons.inj same).1

/-- A text between quotation marks ends where it ends, whatever follows. -/
theorem letters_inj {letters others rest more : List Char}
    (same : letters.flatMap escape ++ quotation :: rest = others.flatMap escape ++ quotation :: more) :
    letters = others ∧ rest = more := by
  induction letters generalizing others with
  | nil =>
    cases others with
    | nil => exact ⟨rfl, (List.cons.inj same).2⟩
    | cons other others =>
      obtain ⟨first, tail, shape, apart⟩ := escape_head other
      rw [List.flatMap_cons, shape] at same
      exact absurd (List.cons.inj same).1.symm apart
  | cons letter letters ih =>
    cases others with
    | nil =>
      obtain ⟨first, tail, shape, apart⟩ := escape_head letter
      rw [List.flatMap_cons, shape] at same
      exact absurd (List.cons.inj same).1 apart
    | cons other others =>
      rw [List.flatMap_cons, List.flatMap_cons, List.append_assoc, List.append_assoc] at same
      obtain ⟨rfl, later⟩ := escape_inj same
      obtain ⟨rfl, equal⟩ := ih later
      exact ⟨rfl, equal⟩

theorem quoted_inj {text other : String} (same : quoted text ++ rest = quoted other ++ more) :
    text = other ∧ rest = more := by
  unfold quoted at same
  simp only [List.cons_append, List.append_assoc, List.cons.injEq, true_and] at same
  obtain ⟨letters, equal⟩ := letters_inj same
  exact ⟨String.toList_inj.mp letters, equal⟩

end quoted

/-- What may follow a value. -/
def Ends (rest : List Char) : Prop := ∀ letter ∈ rest.head?, letter = ',' ∨ letter = ']'

theorem renderRest_ends (items : List Json) (rest : List Char) : Ends (renderRest items ++ rest) := by
  cases items with
  | nil =>
    intro letter first
    exact .inr (Option.some.inj first).symm
  | cons item items =>
    intro letter first
    exact .inl (Option.some.inj first).symm

/-- Where two words end is seen from the letters that are in none. -/
theorem word_inj {word other rest more : List Char} (plain : ∀ letter ∈ word, letter ≠ ',' ∧ letter ≠ ']')
    (isPlain : ∀ letter ∈ other, letter ≠ ',' ∧ letter ≠ ']') (ends : Ends rest) (isEnd : Ends more)
    (same : word ++ rest = other ++ more) : word = other ∧ rest = more := by
  induction word generalizing other with
  | nil =>
    cases other with
    | nil => exact ⟨rfl, same⟩
    | cons letter other =>
      obtain ⟨comma, bracket⟩ := isPlain letter List.mem_cons_self
      rw [List.nil_append] at same
      rcases ends letter (by rw [same]; rfl) with here | here
      · exact absurd here comma
      · exact absurd here bracket
  | cons letter word ih =>
    cases other with
    | nil =>
      obtain ⟨comma, bracket⟩ := plain letter List.mem_cons_self
      rw [List.nil_append] at same
      rcases isEnd letter (by rw [← same]; rfl) with here | here
      · exact absurd here comma
      · exact absurd here bracket
    | cons first other =>
      obtain ⟨rfl, later⟩ := List.cons.inj same
      obtain ⟨rfl, equal⟩ := ih (fun _ member => plain _ (List.mem_cons_of_mem _ member))
        (fun _ member => isPlain _ (List.mem_cons_of_mem _ member)) later
      exact ⟨rfl, equal⟩

theorem Literal.plain (value : Literal) : ∀ letter ∈ value.text, letter ≠ ',' ∧ letter ≠ ']' := by
  intro letter member
  have inside := Literal.letters member
  simp only [List.mem_cons, not_or] at inside
  exact ⟨inside.1, inside.2.1⟩

theorem literal_inj (same : value.text ++ rest = other.text ++ more) (ends : Ends rest) (isEnd : Ends more) :
    value = other ∧ rest = more := by
  obtain ⟨texts, equal⟩ := word_inj value.plain other.plain ends isEnd same
  exact ⟨Literal.text_inj texts, equal⟩

/-- A word or number begins with a letter of its own. -/
theorem Literal.head (value : Literal) :
    ∃ first rest, value.text = first :: rest ∧ first ∉ [',', ']', '[', quotation] := by
  have filled : value.text ≠ [] := by
    rcases value.word_or_number with word | number
    · rcases word with rfl | rfl | rfl <;> exact List.cons_ne_nil _ _
    · rcases number with ⟨number, rfl⟩ | ⟨number, rfl⟩
      · cases number with
        | ofNat number => exact Nat.toDigits_ne_nil
        | negSucc number => exact List.cons_ne_nil _ _
      · rcases number.marked with marked | marked <;> exact List.ne_nil_of_mem marked
  obtain ⟨first, rest, shape⟩ := List.exists_cons_of_ne_nil filled
  exact ⟨first, rest, shape, Literal.letters (by rw [shape]; exact List.mem_cons_self)⟩

/-- The first letter tells words and numbers, texts and arrays from each other and from the end of an array. -/
theorem render_head (value : Json) : ∃ first rest, render value = first :: rest ∧ first ≠ ']' ∧
    (first = quotation ↔ ∃ text, value = .str text) ∧ (first = '[' ↔ ∃ items, value = .array items) := by
  cases value with
  | literal value =>
    obtain ⟨first, rest, shape, apart⟩ := value.head
    simp only [List.mem_cons, List.not_mem_nil, or_false, not_or] at apart
    exact ⟨first, rest, by rw [render, shape], apart.2.1, by simp [apart], by simp [apart]⟩
  | str text =>
    refine ⟨quotation, _, by rw [render]; rfl, by decide, by simp, ?_⟩
    simp only [reduceCtorEq, exists_false, iff_false]
    decide
  | array items =>
    cases items with
    | nil => exact ⟨'[', _, by rw [render], by decide, by simp; decide, by simp⟩
    | cons item items => exact ⟨'[', _, by rw [render]; rfl, by decide, by simp; decide, by simp⟩

/-- Values with the same beginning are of the same kind. -/
theorem same_kind {value other : Json} (same : render value ++ rest = render other ++ more) :
    ((∃ text, value = .str text) ↔ ∃ text, other = .str text) ∧
      ((∃ items, value = .array items) ↔ ∃ items, other = .array items) := by
  obtain ⟨first, _, shape, -, text, array⟩ := render_head value
  obtain ⟨letter, _, isShape, -, isText, isArray⟩ := render_head other
  rw [shape, isShape] at same
  obtain rfl := (List.cons.inj same).1
  exact ⟨text.symm.trans isText, array.symm.trans isArray⟩

mutual

/-- The text of a value tells the value, and what follows it. -/
theorem render_inj (value other : Json) {rest more : List Char} (same : render value ++ rest = render other ++ more)
    (ends : Ends rest) (isEnd : Ends more) : value = other ∧ rest = more := by
  obtain ⟨texts, arrays⟩ := same_kind same
  cases value with
  | literal value =>
    cases other with
    | literal other =>
      rw [render, render] at same
      obtain ⟨rfl, equal⟩ := literal_inj same ends isEnd
      exact ⟨rfl, equal⟩
    | str text => exact absurd (texts.mpr ⟨text, rfl⟩) (by simp)
    | array items => exact absurd (arrays.mpr ⟨items, rfl⟩) (by simp)
  | str text =>
    obtain ⟨other, rfl⟩ := texts.mp ⟨text, rfl⟩
    rw [render, render] at same
    obtain ⟨rfl, equal⟩ := quoted_inj same
    exact ⟨rfl, equal⟩
  | array items =>
    obtain ⟨others, rfl⟩ := arrays.mp ⟨items, rfl⟩
    cases items with
    | nil =>
      cases others with
      | nil =>
        rw [render] at same
        exact ⟨rfl, List.append_cancel_left same⟩
      | cons other others =>
        obtain ⟨first, _, shape, apart, -⟩ := render_head other
        rw [render, render, shape] at same
        exact absurd (List.cons.inj (List.cons.inj same).2).1.symm apart
    | cons item items =>
      cases others with
      | nil =>
        obtain ⟨first, _, shape, apart, -⟩ := render_head item
        rw [render, render, shape] at same
        exact absurd (List.cons.inj (List.cons.inj same).2).1 apart
      | cons other others =>
        rw [render, render, List.cons_append, List.cons_append, List.cons_append, List.cons_append, List.append_assoc,
          List.append_assoc] at same
        obtain ⟨rfl, later⟩ := render_inj item other (List.cons.inj same).2 (renderRest_ends _ _) (renderRest_ends _ _)
        obtain ⟨rfl, equal⟩ := renderRest_inj items others later
        exact ⟨rfl, equal⟩

theorem renderRest_inj (items others : List Json) {rest more : List Char}
    (same : renderRest items ++ rest = renderRest others ++ more) : items = others ∧ rest = more := by
  cases items with
  | nil =>
    cases others with
    | nil =>
      rw [renderRest] at same
      exact ⟨rfl, List.append_cancel_left same⟩
    | cons other others =>
      rw [renderRest, renderRest] at same
      exact absurd (List.cons.inj same).1 (by decide)
  | cons item items =>
    cases others with
    | nil =>
      rw [renderRest, renderRest] at same
      exact absurd (List.cons.inj same).1 (by decide)
    | cons other others =>
      rw [renderRest, renderRest, List.cons_append, List.cons_append, List.cons_append, List.cons_append,
        List.append_assoc, List.append_assoc] at same
      obtain ⟨rfl, later⟩ := render_inj item other (List.cons.inj same).2 (renderRest_ends _ _) (renderRest_ends _ _)
      obtain ⟨rfl, equal⟩ := renderRest_inj items others later
      exact ⟨rfl, equal⟩

end

/-- The bytes of a value. -/
def encoded (value : Json) : List UInt8 := (render value).flatMap String.utf8EncodeChar

/-- No two values have the same bytes. -/
theorem encoded_inj {value other : Json} (same : encoded value = encoded other) : value = other := by
  have texts : String.ofList (render value) = String.ofList (render other) := by
    rw [← String.toByteArray_inj]
    exact congrArg List.toByteArray same
  have nothing : Ends [] := fun _ first => nomatch first
  exact (render_inj value other (congrArg (· ++ []) (String.ofList_inj.mp texts)) nothing nothing).1

end EspIris.JsonText
