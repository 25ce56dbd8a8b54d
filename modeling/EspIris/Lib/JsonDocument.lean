import EspIris.Lib.Json
import Mathlib.Data.List.Sort

/-! JSON documents with objects: their text with sorted keys and without blanks, and a reader of any text, which takes
the first back to the document with its keys sorted. -/

namespace EspIris.JsonDocument

/-- A text as its code points; escapes in a document may make surrogates of some. -/
abbrev Text := List Nat

instance textLawful : LawfulBEq Text := inferInstance

def textOf (letters : String) : Text := letters.toList.map Char.toNat

def quotation : Nat := 0x22
def backslash : Nat := 0x5c
def comma : Nat := 0x2c
def colon : Nat := 0x3a
def openBracket : Nat := 0x5b
def closeBracket : Nat := 0x5d
def openBrace : Nat := 0x7b
def closeBrace : Nat := 0x7d

def blanks : List Nat := [0x20, 0x09, 0x0a, 0x0d]

/-- What ends a word or a number. -/
def delimiters : List Nat := blanks ++ [comma, colon, quotation, openBracket, closeBracket, openBrace, closeBrace]

def isDigit (code : Nat) : Bool := 0x30 ≤ code && code ≤ 0x39

def intText (value : Int) : Text := (JsonText.intText value).map Char.toNat

def ofDigits (digits : Text) : Nat := digits.foldl (fun value digit => 10 * value + (digit - 0x30)) 0

/-- An integer without leading zeros. -/
def parseInt (token : Text) : Option Int :=
  if token = [0x2d, 0x30] then some 0
  else
    let value : Int := match token with
      | 0x2d :: digits => -(ofDigits digits : Int)
      | digits => ofDigits digits
    if intText value = token then some value else none

/-- The digits of an exponent, behind its letter. -/
def isExponent : Text → Bool
  | 0x2b :: digits | 0x2d :: digits => digits ≠ [] && digits.all isDigit
  | digits => digits ≠ [] && digits.all isDigit

/-- What follows the integer part of a number with a point or an exponent. -/
def isFraction (rest : Text) : Bool :=
  match rest with
  | 0x2e :: rest =>
    let digits := rest.takeWhile isDigit
    digits ≠ [] && match rest.dropWhile isDigit with
      | [] => true
      | 0x65 :: exponent | 0x45 :: exponent => isExponent exponent
      | _ => false
  | 0x65 :: exponent | 0x45 :: exponent => isExponent exponent
  | _ => false

/-- A number that is not an integer, or a word for one that is not finite. -/
def isReal (token : Text) : Bool :=
  if token ∈ [textOf "NaN", textOf "Infinity", textOf "-Infinity"] then true
  else
    let unsigned := match token with
      | 0x2d :: rest => rest
      | rest => rest
    let whole := unsigned.takeWhile isDigit
    whole ≠ [] && (whole == [0x30] || whole.head? != some 0x30) && isFraction (unsigned.dropWhile isDigit)

/-- A floating-point number, as it is written. -/
structure Real where
  token : Text
  real : isReal token = true
  notInt : parseInt token = none
  plain : ∀ code ∈ token, code ∉ delimiters

inductive Value
  | null
  | bool (value : Bool)
  | int (value : Int)
  | real (value : Real)
  | str (text : Text)
  | array (items : List Value)
  | object (fields : List (Text × Value))

inductive ParseError
  | invalid
  | duplicate (key : Text)

/-- The value of a word or a number. -/
def classify (token : Text) : Except ParseError Value :=
  match number : parseInt token with
  | some value => .ok (.int value)
  | none =>
    if real : isReal token = true ∧ ∀ code ∈ token, code ∉ delimiters then
      .ok (.real ⟨token, real.1, number, real.2⟩)
    else if token = textOf "null" then .ok .null
    else if token = textOf "true" then .ok (.bool true)
    else if token = textOf "false" then .ok (.bool false)
    else .error .invalid

def hexLetter (value : Nat) : Nat := if value < 10 then 0x30 + value else 0x57 + value

def hexValue (code : Nat) : Option Nat :=
  if isDigit code then some (code - 0x30)
  else if 0x61 ≤ code ∧ code ≤ 0x66 then some (code - 0x57)
  else if 0x41 ≤ code ∧ code ≤ 0x46 then some (code - 0x37)
  else none

/-- What a letter behind a backslash stands for. -/
def unescape (code : Nat) : Option Nat :=
  if code = quotation ∨ code = backslash ∨ code = 0x2f then some code
  else if code = 0x62 then some 0x08
  else if code = 0x66 then some 0x0c
  else if code = 0x6e then some 0x0a
  else if code = 0x72 then some 0x0d
  else if code = 0x74 then some 0x09
  else none

/-- The rest of a text up to its quotation mark, and what is behind it. -/
def scanString : Text → Option (Text × Text)
  | [] => none
  | code :: rest =>
    if code = quotation then some ([], rest)
    else if code = backslash then
      match rest with
      | [] => none
      | 0x75 :: first :: second :: third :: fourth :: rest =>
        match hexValue first, hexValue second, hexValue third, hexValue fourth with
        | some first, some second, some third, some fourth =>
          (scanString rest).map fun (units, rest) =>
            ((((first * 16 + second) * 16 + third) * 16 + fourth) :: units, rest)
        | _, _, _, _ => none
      | letter :: rest =>
        match unescape letter with
        | some unit => (scanString rest).map fun (units, rest) => (unit :: units, rest)
        | none => none
    else if code < 0x20 then none
    else (scanString rest).map fun (units, rest) => (code :: units, rest)

/-- A high surrogate and a low one behind it are one character. -/
def combine : Text → Text
  | high :: low :: rest =>
    if 0xd800 ≤ high ∧ high ≤ 0xdbff ∧ 0xdc00 ≤ low ∧ low ≤ 0xdfff then
      (0x10000 + (high - 0xd800) * 0x400 + (low - 0xdc00)) :: combine rest
    else high :: combine (low :: rest)
  | text => text

def skipBlanks (text : Text) : Text := text.dropWhile (· ∈ blanks)

/-- The first key that comes again. -/
def repeatedKey : List Text → List (Text × Value) → Option Text
  | _, [] => none
  | seen, (key, _) :: pairs => if key ∈ seen then some key else repeatedKey (key :: seen) pairs

/-- An object whose keys are all different. -/
def strictObject (pairs : List (Text × Value)) : Except ParseError Value :=
  match repeatedKey [] pairs with
  | some key => .error (.duplicate key)
  | none => .ok (.object pairs)

mutual

/-- A value at the start of a text, and what is behind it. -/
def parseValue : Nat → Text → Except ParseError (Value × Text)
  | 0, _ => .error .invalid
  | fuel + 1, text =>
    match text with
    | [] => .error .invalid
    | code :: rest =>
      if code = quotation then
        match scanString rest with
        | some (units, rest) => .ok (.str (combine units), rest)
        | none => .error .invalid
      else if code = openBracket then
        match skipBlanks rest with
        | [] => .error .invalid
        | first :: rest =>
          if first = closeBracket then .ok (.array [], rest)
          else match parseItems fuel (first :: rest) with
            | .error error => .error error
            | .ok (items, rest) => .ok (.array items, rest)
      else if code = openBrace then
        match skipBlanks rest with
        | [] => .error .invalid
        | first :: rest =>
          if first = closeBrace then .ok (.object [], rest)
          else match parseFields fuel (first :: rest) with
            | .error error => .error error
            | .ok (pairs, rest) => match strictObject pairs with
              | .error error => .error error
              | .ok value => .ok (value, rest)
      else
        let token := text.takeWhile (· ∉ delimiters)
        match classify token with
        | .error error => .error error
        | .ok value => .ok (value, text.dropWhile (· ∉ delimiters))

/-- The items of an array, from one on. -/
def parseItems : Nat → Text → Except ParseError (List Value × Text)
  | 0, _ => .error .invalid
  | fuel + 1, text =>
    match parseValue fuel text with
    | .error error => .error error
    | .ok (item, rest) =>
      match skipBlanks rest with
      | [] => .error .invalid
      | code :: rest =>
        if code = closeBracket then .ok ([item], rest)
        else if code = comma then
          match parseItems fuel (skipBlanks rest) with
          | .error error => .error error
          | .ok (items, rest) => .ok (item :: items, rest)
        else .error .invalid

/-- The fields of an object, from one on. -/
def parseFields : Nat → Text → Except ParseError (List (Text × Value) × Text)
  | 0, _ => .error .invalid
  | fuel + 1, text =>
    match text with
    | [] => .error .invalid
    | code :: rest =>
      if code ≠ quotation then .error .invalid
      else match scanString rest with
        | none => .error .invalid
        | some (units, rest) =>
          match skipBlanks rest with
          | [] => .error .invalid
          | code :: rest =>
            if code ≠ colon then .error .invalid
            else match parseValue fuel (skipBlanks rest) with
              | .error error => .error error
              | .ok (value, rest) =>
                match skipBlanks rest with
                | [] => .error .invalid
                | code :: rest =>
                  if code = closeBrace then .ok ([(combine units, value)], rest)
                  else if code = comma then
                    match parseFields fuel (skipBlanks rest) with
                    | .error error => .error error
                    | .ok (pairs, rest) => .ok ((combine units, value) :: pairs, rest)
                  else .error .invalid

end

/-- The document that a text holds and nothing else; every value and every item takes a letter at least. -/
def loads (text : Text) : Except ParseError Value :=
  match parseValue (2 * text.length + 2) (skipBlanks text) with
  | .error error => .error error
  | .ok (value, rest) => if skipBlanks rest = [] then .ok value else .error .invalid

/-- A letter of a text between quotation marks, when other letters than those of ASCII stay as they are. -/
def escape (code : Nat) : Text :=
  if code = quotation ∨ code = backslash then [backslash, code]
  else if code = 0x0a then [backslash, 0x6e]
  else if code = 0x0d then [backslash, 0x72]
  else if code = 0x09 then [backslash, 0x74]
  else if code = 0x0c then [backslash, 0x66]
  else if code = 0x08 then [backslash, 0x62]
  else if code < 0x20 then [backslash, 0x75, 0x30, 0x30, 0x30 + code / 16, hexLetter (code % 16)]
  else [code]

/-- The order of texts. -/
def textLe : Text → Text → Bool
  | [], _ => true
  | _ :: _, [] => false
  | code :: text, other :: others => code < other || code = other && textLe text others

def quoted (text : Text) : Text := quotation :: text.flatMap escape ++ [quotation]

mutual

/-- The text without blanks. -/
def render : Value → Text
  | .null => textOf "null"
  | .bool true => textOf "true"
  | .bool false => textOf "false"
  | .int value => intText value
  | .real value => value.token
  | .str text => quoted text
  | .array [] => [openBracket, closeBracket]
  | .array (item :: items) => openBracket :: render item ++ renderItems items
  | .object [] => [openBrace, closeBrace]
  | .object ((key, value) :: fields) => openBrace :: quoted key ++ colon :: render value ++ renderFields fields

/-- What follows an item. -/
def renderItems : List Value → Text
  | [] => [closeBracket]
  | item :: items => comma :: render item ++ renderItems items

/-- What follows a field. -/
def renderFields : List (Text × Value) → Text
  | [] => [closeBrace]
  | (key, value) :: fields => comma :: quoted key ++ colon :: render value ++ renderFields fields

end

mutual

/-- The value with the keys of every object in order. -/
def sortKeys : Value → Value
  | .array items => .array (sortItems items)
  | .object fields => .object ((sortFields fields).mergeSort fun first second => textLe first.1 second.1)
  | value => value

def sortItems : List Value → List Value
  | [] => []
  | item :: items => sortKeys item :: sortItems items

def sortFields : List (Text × Value) → List (Text × Value)
  | [] => []
  | (key, value) :: fields => (key, sortKeys value) :: sortFields fields

end

/-- The text with sorted keys and without blanks. -/
def dumps (value : Value) : Text := render (sortKeys value)


section literals

theorem textOf_inj {letters others : String} (same : textOf letters = textOf others) : letters = others :=
  String.toList_inj.mp (List.map_injective_iff.mpr (fun _ _ => Char.toNat_inj.mp) same)

theorem ofDigits_toDigits (value : Nat) : ofDigits ((Nat.toDigits 10 value).map Char.toNat) = value := by
  unfold ofDigits
  rw [List.foldl_map]
  exact Nat.ofDigitChars_ten_toDigits

theorem intText_digit {value : Int} {code : Nat} (member : code ∈ intText value) :
    isDigit code = true ∨ code = 0x2d := by
  obtain ⟨letter, inside, rfl⟩ := List.mem_map.mp member
  rcases JsonText.intText_letters inside with digit | rfl
  · left
    unfold isDigit
    unfold Char.isDigit at digit
    simp only [Bool.and_eq_true, decide_eq_true_eq, ge_iff_le, UInt32.le_iff_toNat_le] at digit ⊢
    exact digit
  · exact .inr rfl

theorem intText_ne_nil (value : Int) : intText value ≠ [] := by
  intro empty
  cases value with
  | ofNat value => exact Nat.toDigits_ne_nil (List.map_eq_nil_iff.mp empty)
  | negSucc value => exact List.cons_ne_nil _ _ empty

/-- Reading what was written. -/
theorem parseInt_intText (value : Int) : parseInt (intText value) = some value := by
  have apart : intText value ≠ [0x2d, 0x30] := by
    intro same
    have letters : JsonText.intText value = ['-', '0'] :=
      List.map_injective_iff.mpr (fun _ _ => Char.toNat_inj.mp) same
    cases value with
    | ofNat value =>
      have digit : '-'.isDigit = true := JsonText.toDigits_isDigit (by
        change '-' ∈ JsonText.intText (.ofNat value)
        rw [letters]
        exact List.mem_cons_self)
      exact absurd digit (by decide)
    | negSucc value =>
      have zero : Nat.toDigits 10 (value + 1) = Nat.toDigits 10 0 := (List.cons.inj letters).2
      exact Nat.succ_ne_zero value (JsonText.toDigits_inj zero)
  unfold parseInt
  rw [if_neg apart]
  cases value with
  | ofNat value =>
    have number := ofDigits_toDigits value
    change (let read : Int := match intText (.ofNat value) with
      | 0x2d :: digits => -(ofDigits digits : Int)
      | digits => ofDigits digits
      if intText read = intText (.ofNat value) then some read else none) = _
    split
    next digits shape =>
      have digit : '-'.isDigit = true := @JsonText.toDigits_isDigit _ value (by
        obtain ⟨letter, rest, letters, first, -⟩ := List.map_eq_cons_iff.mp shape
        have here : letter = '-' := Char.toNat_inj.mp first
        change '-' ∈ JsonText.intText (.ofNat value)
        rw [letters, here]
        exact List.mem_cons_self)
      exact absurd digit (by decide)
    have read : ofDigits (intText (.ofNat value)) = value := number
    rw [read]
    exact if_pos rfl
  | negSucc value =>
    have number := ofDigits_toDigits (value + 1)
    change (let read : Int := -(ofDigits ((Nat.toDigits 10 (value + 1)).map Char.toNat) : Int)
      if intText read = intText (.negSucc value) then some read else none) = _
    rw [number]
    exact if_pos rfl

theorem plain_of_digit {code : Nat} (digit : isDigit code = true ∨ code = 0x2d) : code ∉ delimiters := by
  unfold isDigit at digit
  simp only [Bool.and_eq_true, decide_eq_true_eq] at digit
  intro member
  have small : ∀ code ∈ delimiters, ¬ ((0x30 ≤ code ∧ code ≤ 0x39) ∨ code = 0x2d) := by decide
  exact small code member digit

theorem classify_intText (value : Int) : classify (intText value) = .ok (.int value) := by
  unfold classify
  split
  next read number =>
    rw [parseInt_intText] at number
    rw [Option.some.inj number]
  next number =>
    rw [parseInt_intText] at number
    cases number

theorem classify_real (value : Real) : classify value.token = .ok (.real value) := by
  unfold classify
  split
  next read number =>
    rw [value.notInt] at number
    cases number
  next number => rw [dif_pos ⟨value.real, value.plain⟩]

theorem classify_word {token : Text} (number : parseInt token = none) (real : isReal token = false) :
    classify token = if token = textOf "null" then .ok .null else if token = textOf "true" then .ok (.bool true)
      else if token = textOf "false" then .ok (.bool false) else .error .invalid := by
  unfold classify
  split
  next read here =>
    rw [number] at here
    cases here
  next => exact dif_neg fun whole => Bool.false_ne_true (real.symm.trans whole.1)

theorem classify_null : classify (textOf "null") = .ok .null := by
  rw [classify_word (by decide +kernel) (by decide +kernel), if_pos rfl]

theorem classify_bool (value : Bool) : classify (textOf (if value then "true" else "false")) = .ok (.bool value) := by
  cases value with
  | false =>
    change classify (textOf "false") = _
    rw [classify_word (by decide +kernel) (by decide +kernel), if_neg (by decide +kernel), if_neg (by decide +kernel),
      if_pos rfl]
  | true =>
    change classify (textOf "true") = _
    rw [classify_word (by decide +kernel) (by decide +kernel), if_neg (by decide +kernel), if_pos rfl]

end literals

section quoted

theorem hexValue_letter {value : Nat} (bounded : value < 16) : hexValue (hexLetter value) = some value := by
  have each : ∀ value < 16, hexValue (hexLetter value) = some value := by decide
  exact each value bounded

/-- A letter is read as it was meant. -/
theorem scanString_escape (code : Nat) (rest : Text) :
    scanString (escape code ++ rest) = (scanString rest).map fun (units, rest) => (code :: units, rest) := by
  unfold escape
  split
  next here =>
    rcases here with rfl | rfl
    · rfl
    · rfl
  next apart =>
    obtain ⟨noQuotation, noBackslash⟩ := not_or.mp apart
    split
    next here =>
      subst here
      rfl
    split
    next here =>
      subst here
      rfl
    split
    next here =>
      subst here
      rfl
    split
    next here =>
      subst here
      rfl
    split
    next here =>
      subst here
      rfl
    split
    next small =>
      have low : code / 16 < 2 := by omega
      have zero : hexValue 0x30 = some 0 := by decide
      have first : hexValue (0x30 + code / 16) = some (code / 16) := by
        have each : ∀ value < 2, hexValue (0x30 + value) = some value := by decide
        exact each _ low
      have second := hexValue_letter (Nat.mod_lt code (by decide : 0 < 16))
      have value : ((0 * 16 + 0) * 16 + code / 16) * 16 + code % 16 = code := by omega
      change scanString (backslash :: 0x75 :: 0x30 :: 0x30 :: (0x30 + code / 16) :: hexLetter (code % 16) :: rest) = _
      rw [scanString, if_neg (by decide), if_pos rfl]
      simp only [zero, first, second, value]
    next large =>
      rw [List.singleton_append, scanString.eq_def]
      exact (if_neg noQuotation).trans ((if_neg noBackslash).trans (if_neg large))

theorem scanString_letters (text rest : Text) :
    scanString (text.flatMap escape ++ quotation :: rest) = some (text, rest) := by
  induction text with
  | nil =>
    rw [List.flatMap_nil, List.nil_append, scanString.eq_def]
    exact if_pos rfl
  | cons code text ih =>
    rw [List.flatMap_cons, List.append_assoc, scanString_escape, ih]
    rfl

end quoted

mutual

/-- Every object has different keys, and in no text is a high surrogate before a low one. -/
def WellFormed : Value → Prop
  | .str text => combine text = text
  | .array items => WellFormedItems items
  | .object fields => (fields.map Prod.fst).Nodup ∧ WellFormedFields fields
  | _ => True

def WellFormedItems : List Value → Prop
  | [] => True
  | item :: items => WellFormed item ∧ WellFormedItems items

def WellFormedFields : List (Text × Value) → Prop
  | [] => True
  | (key, value) :: fields => (combine key = key ∧ WellFormed value) ∧ WellFormedFields fields

end

section reading

/-- What may follow a value. -/
def Follows (rest : Text) : Prop := ∀ code ∈ rest.head?, code ∈ delimiters

theorem follows_nil : Follows [] := fun _ first => nomatch first

theorem follows_cons {code : Nat} {rest : Text} (member : code ∈ delimiters) : Follows (code :: rest) := by
  intro other first
  rw [← Option.some.inj first]
  exact member

theorem renderItems_follows (items : List Value) (rest : Text) : Follows (renderItems items ++ rest) := by
  cases items with
  | nil => exact follows_cons (by decide)
  | cons item items => exact follows_cons (by decide)

theorem renderFields_follows (fields : List (Text × Value)) (rest : Text) : Follows (renderFields fields ++ rest) := by
  cases fields with
  | nil => exact follows_cons (by decide)
  | cons field fields => exact follows_cons (by decide)

theorem takeWhile_token {token rest : Text} (plain : ∀ code ∈ token, code ∉ delimiters) (follows : Follows rest) :
    (token ++ rest).takeWhile (fun code => decide (code ∉ delimiters)) = token ∧
      (token ++ rest).dropWhile (fun code => decide (code ∉ delimiters)) = rest := by
  induction token with
  | nil =>
    cases rest with
    | nil => exact ⟨rfl, rfl⟩
    | cons code rest =>
      have ends : ¬ (decide (code ∉ delimiters) = true) := by
        rw [decide_eq_true_eq]
        exact fun apart => apart (follows code rfl)
      exact ⟨List.takeWhile_cons_of_neg ends, List.dropWhile_cons_of_neg ends⟩
  | cons code token ih =>
    have goes : decide (code ∉ delimiters) = true := decide_eq_true (plain code List.mem_cons_self)
    obtain ⟨taken, left⟩ := ih fun other member => plain other (List.mem_cons_of_mem code member)
    rw [List.cons_append, List.takeWhile_cons_of_pos (p := fun code => decide (code ∉ delimiters)) goes,
      List.dropWhile_cons_of_pos (p := fun code => decide (code ∉ delimiters)) goes, taken, left]
    exact ⟨rfl, rfl⟩

theorem skipBlanks_cons {code : Nat} {rest : Text} (filled : code ∉ blanks) : skipBlanks
    (code :: rest) = code :: rest :=
  List.dropWhile_cons_of_neg (by simpa using filled)

theorem Real.filled (value : Real) : value.token ≠ [] := by
  intro empty
  have real := value.real
  rw [empty] at real
  exact absurd real (by decide)

/-- A word or a number is read up to what ends it. -/
theorem parseValue_token {token rest : Text} {value : Value} {fuel : Nat} (filled : token ≠ [])
    (plain : ∀ code ∈ token, code ∉ delimiters) (meaning : classify token = .ok value) (follows : Follows rest) :
    parseValue (fuel + 1) (token ++ rest) = .ok (value, rest) := by
  obtain ⟨taken, left⟩ := takeWhile_token plain follows
  obtain ⟨code, letters, rfl⟩ := List.exists_cons_of_ne_nil filled
  have apart : ∀ other ∈ delimiters, code ≠ other :=
    fun other member same => plain code List.mem_cons_self (same ▸ member)
  rw [parseValue.eq_def, List.cons_append]
  dsimp only
  rw [if_neg (apart _ (by decide)), if_neg (apart _ (by decide)), if_neg (apart _ (by decide)), ← List.cons_append,
    taken, left, meaning]

/-- The first letter of a value is neither a blank nor the end of anything. -/
theorem render_head (value : Value) : ∃ code rest, render value = code :: rest ∧ code ∉ blanks ∧
    code ≠ closeBracket ∧ code ≠ closeBrace := by
  have token : ∀ token : Text, token ≠ [] → (∀ code ∈ token, code ∉ delimiters) →
      ∃ code rest, token = code :: rest ∧ code ∉ blanks ∧ code ≠ closeBracket ∧ code ≠ closeBrace := by
    intro token filled plain
    obtain ⟨code, rest, rfl⟩ := List.exists_cons_of_ne_nil filled
    have apart := plain code List.mem_cons_self
    refine ⟨code, rest, rfl, fun blank => apart (List.mem_append_left _ blank), ?_, ?_⟩
    · exact fun same => apart (same ▸ by decide)
    · exact fun same => apart (same ▸ by decide)
  cases value with
  | null => exact token _ (by decide) (by decide)
  | bool value => cases value <;> exact token _ (by decide) (by decide)
  | int value => exact token _ (intText_ne_nil value) fun code member => plain_of_digit (intText_digit member)
  | real value => exact token _ value.filled value.plain
  | str text => exact ⟨quotation, _, rfl, by decide, by decide, by decide⟩
  | array items => cases items <;> exact ⟨openBracket, _, rfl, by decide, by decide, by decide⟩
  | object fields => cases fields <;> exact ⟨openBrace, _, rfl, by decide, by decide, by decide⟩

theorem skipBlanks_render (value : Value) (rest : Text) : skipBlanks (render value ++ rest) = render value ++ rest := by
  obtain ⟨code, letters, shape, filled, -⟩ := render_head value
  rw [shape]
  exact skipBlanks_cons filled

theorem repeatedKey_none {fields : List (Text × Value)} {seen : List Text} (nodup : (fields.map Prod.fst).Nodup)
    (fresh : ∀ key ∈ fields.map Prod.fst, key ∉ seen) : repeatedKey seen fields = none := by
  induction fields generalizing seen with
  | nil => rfl
  | cons field fields ih =>
    obtain ⟨key, value⟩ := field
    obtain ⟨here, later⟩ := List.nodup_cons.mp nodup
    rw [repeatedKey, if_neg (fresh key List.mem_cons_self)]
    apply ih later
    intro other member again
    rcases List.mem_cons.mp again with rfl | inside
    · exact here member
    · exact fresh other (List.mem_cons_of_mem _ member) inside

theorem strictObject_nodup {fields : List (Text × Value)} (nodup : (fields.map Prod.fst).Nodup) :
    strictObject fields = .ok (.object fields) := by
  unfold strictObject
  rw [repeatedKey_none nodup fun _ _ => List.not_mem_nil]

mutual

/-- A value is read back from its text, whatever ends it. -/
theorem parseValue_render (value : Value) (wellFormed : WellFormed value) (fuel : Nat) (rest : Text)
    (enough : 2 * (render value).length ≤ fuel) (follows : Follows rest) :
    parseValue fuel (render value ++ rest) = .ok (value, rest) := by
  obtain ⟨fuel, rfl⟩ : ∃ less, fuel = less + 1 := by
    obtain ⟨code, letters, shape, -⟩ := render_head value
    rw [shape, List.length_cons] at enough
    exact ⟨fuel - 1, by omega⟩
  cases value with
  | null => exact parseValue_token (by decide) (by decide) classify_null follows
  | bool value =>
    cases value with
    | true => exact parseValue_token (by decide) (by decide) (classify_bool true) follows
    | false => exact parseValue_token (by decide) (by decide) (classify_bool false) follows
  | int value =>
    rw [render]
    exact parseValue_token (intText_ne_nil value) (fun code member => plain_of_digit (intText_digit member))
      (classify_intText value) follows
  | real value =>
    rw [render]
    exact parseValue_token value.filled value.plain (classify_real value) follows
  | str text =>
    rw [render, quoted, parseValue.eq_def, List.cons_append, List.cons_append, List.append_assoc]
    dsimp only
    rw [if_pos rfl, List.singleton_append, scanString_letters]
    rw [WellFormed] at wellFormed
    dsimp only
    rw [wellFormed]
  | array items =>
    cases items with
    | nil =>
      rw [render, parseValue.eq_def]
      rfl
    | cons item items =>
      rw [WellFormed] at wellFormed
      rw [render, List.cons_append, List.length_cons, List.length_append] at enough
      obtain ⟨code, letters, shape, filled, noEnd, -⟩ := render_head item
      have skipped := skipBlanks_render item (renderItems items ++ rest)
      have read := parseItems_render item items wellFormed fuel rest (by omega)
      rw [render, List.cons_append, List.cons_append, List.append_assoc, parseValue.eq_def]
      dsimp only
      rw [if_neg (by decide), if_pos rfl, skipped]
      rw [shape, List.cons_append] at read ⊢
      dsimp only
      rw [if_neg noEnd, read]
  | object fields =>
    cases fields with
    | nil =>
      rw [render, parseValue.eq_def]
      rfl
    | cons field fields =>
      obtain ⟨key, value⟩ := field
      rw [WellFormed] at wellFormed
      rw [render] at enough
      simp only [List.cons_append, List.length_cons, List.length_append] at enough
      have read := parseFields_render key value fields wellFormed.2 fuel rest (by omega)
      rw [render]
      simp only [List.cons_append, List.append_assoc]
      rw [parseValue.eq_def]
      dsimp only
      rw [if_neg (by decide), if_neg (by decide), if_pos rfl]
      rw [quoted, List.cons_append, List.cons_append] at read ⊢
      rw [skipBlanks_cons (by decide)]
      dsimp only
      rw [if_neg (by decide), read]
      dsimp only
      rw [strictObject_nodup wellFormed.1]
termination_by fuel

theorem parseItems_render (item : Value) (items : List Value) (wellFormed : WellFormedItems (item :: items))
    (fuel : Nat) (rest : Text) (enough : 2 * ((render item).length + (renderItems items).length) < fuel) :
    parseItems fuel (render item ++ (renderItems items ++ rest)) = .ok (item :: items, rest) := by
  obtain ⟨fuel, rfl⟩ : ∃ less, fuel = less + 1 := ⟨fuel - 1, by omega⟩
  rw [WellFormedItems] at wellFormed
  have first := parseValue_render item wellFormed.1 fuel _ (by omega) (renderItems_follows items rest)
  rw [parseItems, first]
  dsimp only
  cases items with
  | nil =>
    rw [renderItems, List.singleton_append, skipBlanks_cons (by decide)]
    rfl
  | cons other items =>
    rw [renderItems, List.cons_append, List.length_cons, List.length_append] at enough
    have later := parseItems_render other items wellFormed.2 fuel rest (by omega)
    rw [renderItems, List.cons_append, List.cons_append, skipBlanks_cons (by decide)]
    dsimp only
    rw [if_neg (by decide), if_pos rfl, List.append_assoc, skipBlanks_render, later]
termination_by fuel

theorem parseFields_render (key : Text) (value : Value) (fields : List (Text × Value))
    (wellFormed : WellFormedFields ((key, value) :: fields)) (fuel : Nat) (rest : Text)
    (enough : 2 * ((quoted key).length + (render value).length + (renderFields fields).length) < fuel) :
    parseFields fuel (quoted key ++ colon :: (render value ++ (renderFields fields ++ rest))) =
      .ok ((key, value) :: fields, rest) := by
  obtain ⟨fuel, rfl⟩ : ∃ less, fuel = less + 1 := ⟨fuel - 1, by omega⟩
  rw [WellFormedFields] at wellFormed
  have first := parseValue_render value wellFormed.1.2 fuel _ (by omega) (renderFields_follows fields rest)
  rw [quoted, List.cons_append, List.cons_append, List.append_assoc, List.singleton_append, parseFields.eq_def]
  dsimp only
  rw [if_neg (by decide), scanString_letters]
  dsimp only
  rw [skipBlanks_cons (by decide)]
  dsimp only
  rw [if_neg (by decide), skipBlanks_render, first, wellFormed.1.1]
  dsimp only
  cases fields with
  | nil =>
    rw [renderFields, List.singleton_append, skipBlanks_cons (by decide)]
    rfl
  | cons field fields =>
    obtain ⟨other, next⟩ := field
    rw [renderFields] at enough
    simp only [List.cons_append, List.length_cons, List.length_append] at enough
    have later := parseFields_render other next fields wellFormed.2 fuel rest (by omega)
    rw [renderFields]
    simp only [List.cons_append, List.append_assoc]
    rw [skipBlanks_cons (by decide)]
    dsimp only
    rw [if_neg (by decide), if_pos rfl]
    rw [quoted, List.cons_append, List.cons_append] at later ⊢
    rw [skipBlanks_cons (by decide), later]
termination_by fuel

end

theorem loads_render (value : Value) (wellFormed : WellFormed value) : loads (render value) = .ok value := by
  have skipped := skipBlanks_render value []
  rw [List.append_nil] at skipped
  have read := parseValue_render value wellFormed (2 * (render value).length + 2) [] (by omega) follows_nil
  rw [List.append_nil] at read
  unfold loads
  rw [skipped, read]
  exact if_pos rfl

end reading

section fields
variable {α : Type}

theorem lookup_head (key other : Text) (value : α) (fields : List (Text × α)) :
    ((other, value) :: fields).lookup key = if key = other then some value else fields.lookup key := by
  rw [List.lookup_cons]
  by_cases same : key = other
  · rw [if_pos same, beq_iff_eq.mpr same]
  · rw [if_neg same, beq_false_of_ne same]

/-- Under different keys, a key leads to what stands with it. -/
theorem lookup_iff {fields : List (Text × α)} (nodup : (fields.map Prod.fst).Nodup) {key : Text} {value : α} :
    fields.lookup key = some value ↔ (key, value) ∈ fields := by
  induction fields with
  | nil => simp
  | cons field fields ih =>
    obtain ⟨other, first⟩ := field
    obtain ⟨fresh, later⟩ := List.nodup_cons.mp nodup
    rw [lookup_head, List.mem_cons, Prod.mk.injEq]
    split
    next same =>
      subst same
      rw [Option.some.injEq]
      constructor
      · exact fun here => .inl ⟨rfl, here.symm⟩
      · rintro (⟨-, here⟩ | member)
        · exact here.symm
        · exact absurd (List.mem_map_of_mem member) fresh
    next apart =>
      rw [ih later]
      exact (or_iff_right fun here => apart here.1).symm

/-- The order of the keys does not matter. -/
theorem lookup_perm {fields others : List (Text × α)} (perm : fields.Perm others)
    (nodup : (fields.map Prod.fst).Nodup) (key : Text) : fields.lookup key = others.lookup key := by
  apply Option.ext
  intro value
  rw [lookup_iff nodup, lookup_iff ((perm.map Prod.fst).nodup_iff.mp nodup)]
  exact perm.mem_iff

theorem lookup_map {β : Type} (fields : List (Text × α)) (change : α → β) (key : Text) :
    (fields.map fun field => (field.1, change field.2)).lookup key = (fields.lookup key).map change := by
  induction fields with
  | nil => rfl
  | cons field fields ih =>
    obtain ⟨other, value⟩ := field
    rw [List.map_cons, lookup_head, lookup_head]
    split
    · rfl
    · exact ih

/-- `fields[key] = value`. -/
def setField (key : Text) (value : α) : List (Text × α) → List (Text × α)
  | [] => [(key, value)]
  | (other, old) :: fields => if other = key then (key, value) :: fields else (other, old) :: setField key value fields

theorem lookup_setField (fields : List (Text × α)) (key : Text) (value : α) (other : Text) :
    (setField key value fields).lookup other = if other = key then some value else fields.lookup other := by
  induction fields with
  | nil => rw [setField, lookup_head]
  | cons field fields ih =>
    obtain ⟨first, old⟩ := field
    rw [setField]
    split
    next here =>
      subst here
      rw [lookup_head, lookup_head]
      split
      · rfl
      · rfl
    next apart =>
      rw [lookup_head, lookup_head, ih]
      by_cases here : other = first
      · rw [if_pos here, if_pos here, if_neg fun same => apart (here.symm.trans same)]
      · rw [if_neg here, if_neg here]

theorem setField_keys (fields : List (Text × α)) (key : Text) (value : α) (other : Text) :
    other ∈ (setField key value fields).map Prod.fst ↔ other = key ∨ other ∈ fields.map Prod.fst := by
  induction fields with
  | nil => simp [setField]
  | cons field fields ih =>
    obtain ⟨first, old⟩ := field
    rw [setField]
    split
    next here =>
      subst here
      simp only [List.map_cons, List.mem_cons]
      tauto
    rw [List.map_cons, List.map_cons, List.mem_cons, List.mem_cons, ih]
    tauto

theorem setField_nodup {fields : List (Text × α)} (nodup : (fields.map Prod.fst).Nodup) (key : Text) (value : α) :
    ((setField key value fields).map Prod.fst).Nodup := by
  induction fields with
  | nil => exact List.nodup_singleton key
  | cons field fields ih =>
    obtain ⟨first, old⟩ := field
    obtain ⟨fresh, later⟩ := List.nodup_cons.mp nodup
    rw [setField]
    split
    next here =>
      subst here
      exact nodup
    next apart =>
      refine List.nodup_cons.mpr ⟨?_, ih later⟩
      intro member
      rcases (setField_keys fields key value first).mp member with here | inside
      · exact apart here
      · exact fresh inside

theorem mem_setField {fields : List (Text × α)} {key : Text} {value : α} {field : Text × α}
    (member : field ∈ setField key value fields) : field = (key, value) ∨ field ∈ fields := by
  induction fields with
  | nil => exact .inl (List.mem_singleton.mp member)
  | cons first fields ih =>
    obtain ⟨other, old⟩ := first
    rw [setField] at member
    split at member
    next here =>
      rcases List.mem_cons.mp member with same | later
      · exact .inl same
      · exact .inr (List.mem_cons_of_mem _ later)
    rcases List.mem_cons.mp member with same | later
    · exact .inr (same ▸ List.mem_cons_self)
    · exact (ih later).imp_right (List.mem_cons_of_mem _)

end fields

section sorting

theorem wellFormedItems_iff {items : List Value} : WellFormedItems items ↔ ∀ item ∈ items, WellFormed item := by
  induction items with
  | nil => simp [WellFormedItems]
  | cons item items ih => rw [WellFormedItems, ih, List.forall_mem_cons]

theorem wellFormedFields_iff {fields : List (Text × Value)} :
    WellFormedFields fields ↔ ∀ field ∈ fields, combine field.1 = field.1 ∧ WellFormed field.2 := by
  induction fields with
  | nil => simp [WellFormedFields]
  | cons field fields ih =>
    obtain ⟨key, value⟩ := field
    rw [WellFormedFields, ih, List.forall_mem_cons]

theorem sortItems_eq (items : List Value) : sortItems items = items.map sortKeys := by
  induction items with
  | nil => rfl
  | cons item items ih => rw [sortItems, ih, List.map_cons]

theorem sortFields_eq (fields : List (Text × Value)) :
    sortFields fields = fields.map fun field => (field.1, sortKeys field.2) := by
  induction fields with
  | nil => rfl
  | cons field fields ih =>
    obtain ⟨key, value⟩ := field
    rw [sortFields, ih, List.map_cons]

theorem sortFields_keys (fields : List (Text × Value)) : (sortFields fields).map Prod.fst = fields.map Prod.fst := by
  rw [sortFields_eq, List.map_map]
  rfl

/-- The fields of an object, in order. -/
def sorted (fields : List (Text × Value)) : List (Text × Value) :=
  (sortFields fields).mergeSort fun first second => textLe first.1 second.1

theorem sorted_perm (fields : List (Text × Value)) : (sorted fields).Perm (sortFields fields) :=
  List.mergeSort_perm _ _

theorem sorted_nodup {fields : List (Text × Value)} (nodup : (fields.map Prod.fst).Nodup) :
    ((sorted fields).map Prod.fst).Nodup := by
  rw [((sorted_perm fields).map Prod.fst).nodup_iff, sortFields_keys]
  exact nodup

/-- Under a key stands the same as before, with its own keys in order. -/
theorem lookup_sorted {fields : List (Text × Value)} (nodup : (fields.map Prod.fst).Nodup) (key : Text) :
    (sorted fields).lookup key = (fields.lookup key).map sortKeys := by
  rw [lookup_perm (sorted_perm fields) (sorted_nodup nodup), sortFields_eq, lookup_map]

mutual

theorem sortKeys_wellFormed (value : Value) (wellFormed : WellFormed value) : WellFormed (sortKeys value) := by
  cases value with
  | null => trivial
  | bool value => trivial
  | int value => trivial
  | real value => trivial
  | str text => exact wellFormed
  | array items =>
    rw [sortKeys, WellFormed]
    rw [WellFormed] at wellFormed
    exact sortItems_wellFormed items wellFormed
  | object fields =>
    rw [WellFormed] at wellFormed
    have each := sortFields_wellFormed fields wellFormed.2
    change WellFormed (.object (sorted fields))
    rw [WellFormed]
    refine ⟨sorted_nodup wellFormed.1, wellFormedFields_iff.mpr fun field member => ?_⟩
    exact wellFormedFields_iff.mp each field ((sorted_perm fields).mem_iff.mp member)

theorem sortItems_wellFormed (items : List Value) (wellFormed : WellFormedItems items) :
    WellFormedItems (sortItems items) := by
  cases items with
  | nil => trivial
  | cons item items =>
    rw [WellFormedItems] at wellFormed
    rw [sortItems, WellFormedItems]
    exact ⟨sortKeys_wellFormed item wellFormed.1, sortItems_wellFormed items wellFormed.2⟩

theorem sortFields_wellFormed (fields : List (Text × Value)) (wellFormed : WellFormedFields fields) :
    WellFormedFields (sortFields fields) := by
  cases fields with
  | nil => trivial
  | cons field fields =>
    obtain ⟨key, value⟩ := field
    rw [WellFormedFields] at wellFormed
    rw [sortFields, WellFormedFields]
    exact ⟨⟨wellFormed.1.1, sortKeys_wellFormed value wellFormed.1.2⟩,
      sortFields_wellFormed fields wellFormed.2⟩

end

/-- The text of a document is read back as the document with its keys in order. -/
theorem loads_dumps {value : Value} (wellFormed : WellFormed value) : loads (dumps value) = .ok (sortKeys value) :=
  loads_render _ (sortKeys_wellFormed value wellFormed)

end sorting

end EspIris.JsonDocument
