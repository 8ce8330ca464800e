/-
Printed JSON text reads back.

`Json.Plain` values have no doubles, and their integers fit 64 bits. `Json.tokens`
are the tokens of the compact text of such a value: the scanner finds exactly
these (`scan_chars`), and the reader puts them together to the document of the
value (`ofText_chars`). So the compact text of a plain value holds that value and
nothing else.

`Token.nesting` counts the brackets that are open at once in a text. For a printed
value that is the nesting of the value (`nesting_chars`).
-/

import Scopewise.Json.Printer
import Scopewise.Json.Reader

namespace Scopewise

namespace Json

/-- A value without doubles whose integers fit 64 bits, with or without sign. -/
inductive Plain : Json → Prop where
  | null : Plain .null
  | bool (b : Bool) : Plain (.bool b)
  | int {n : Int} : -0x8000000000000000 ≤ n → n < UInt64.size → Plain (.int n)
  | str (s : String) : Plain (.str s)
  | arr {items : List Json} : (∀ item ∈ items, Plain item) → Plain (.arr items)
  | obj {entries : List (String × Json)} : (∀ e ∈ entries, Plain e.2) → Plain (.obj entries)

mutual

/-- The tokens of the compact text of a value. -/
def tokens : Json → List Token
  | .null => [.null]
  | .bool b => [.bool b]
  | .int n => [.int n]
  | .double x => [.double x]
  | .str s => [.str s]
  | .arr [] => [.openBracket, .closeBracket]
  | .arr (item :: rest) => .openBracket :: (item.tokens ++ tokensItems rest)
  | .obj [] => [.openBrace, .closeBrace]
  | .obj ((key, value) :: rest) =>
      .openBrace :: .str key :: .colon :: (value.tokens ++ tokensEntries rest)

/-- The items after the first, each behind its comma, and the bracket. -/
def tokensItems : List Json → List Token
  | [] => [.closeBracket]
  | item :: rest => .comma :: (item.tokens ++ tokensItems rest)

/-- The entries after the first, each behind its comma, and the brace. -/
def tokensEntries : List (String × Json) → List Token
  | [] => [.closeBrace]
  | (key, value) :: rest => .comma :: .str key :: .colon :: (value.tokens ++ tokensEntries rest)

end

end Json

namespace Token

/-! ### Strings -/

theorem hexValue?_hexDigit (n : Nat) (h : n < 16) : hexValue? (Json.hexDigit n) = some n := by
  revert n
  decide

/-- A control character is written by its code. -/
theorem hexCode?_control {c : Char} (control : c.toNat < 32) :
    hexCode? '0' '0' (Json.hexDigit (c.toNat / 16)) (Json.hexDigit (c.toNat % 16)) =
      some c.toNat := by
  have high := hexValue?_hexDigit (c.toNat / 16) (by omega)
  have low := hexValue?_hexDigit (c.toNat % 16) (by omega)
  have zero : hexValue? '0' = some 0 := by decide
  simp only [hexCode?, high, low, zero, Option.pure_def, Option.bind_eq_bind, Option.bind_some,
    Option.some_inj]
  omega

theorem Piece.ofCode_toNat {c : Char} (control : c.toNat < 32) :
    Piece.ofCode c.toNat = .char c := by
  have leading : isLeading c.toNat = false := by
    simp only [isLeading, Bool.and_eq_false_iff, decide_eq_false_iff_not]
    omega
  have trailing : isTrailing c.toNat = false := by
    simp only [isTrailing, Bool.and_eq_false_iff, decide_eq_false_iff_not]
    omega
  simp [Piece.ofCode, leading, trailing, Char.ofNat_toNat]

/-- Escapes are of two forms; every other character stands for itself. -/
theorem escape_cases (c : Char) :
    (∃ e, Json.escape c = ['\\', e] ∧ e ≠ 'u' ∧ shortEscape? e = some c) ∨
      (c.toNat < 32 ∧ Json.escape c =
        ['\\', 'u', '0', '0', Json.hexDigit (c.toNat / 16), Json.hexDigit (c.toNat % 16)]) ∨
      (¬ c.toNat < 32 ∧ c ≠ '"' ∧ c ≠ '\\' ∧ Json.escape c = [c]) := by
  by_cases short : c ∈ ['"', '\\', '\n', '\r', '\t', Char.ofNat 8, Char.ofNat 12]
  · left
    simp only [List.mem_cons, List.not_mem_nil, or_false] at short
    rcases short with rfl | rfl | rfl | rfl | rfl | rfl | rfl <;>
      exact ⟨_, rfl, by decide, by decide⟩
  · right
    simp only [List.mem_cons, List.not_mem_nil, or_false, not_or] at short
    by_cases control : c.toNat < 32
    · exact .inl ⟨control, by simp [Json.escape, short, control]⟩
    · exact .inr ⟨control, short.1, short.2.1, by simp [Json.escape, short, control]⟩

theorem inside_quote (text : List Char) : inside ('"' :: text) = ⟨[], .ok text⟩ := by
  rw [inside.eq_def]
  simp

/-- An escaped character is one piece of a string. -/
theorem inside_escape (c : Char) (text : List Char) :
    inside (Json.escape c ++ text) = (inside text).cons (.char c) := by
  rcases escape_cases c with ⟨e, written, notCode, short⟩ | ⟨control, written⟩ |
    ⟨printable, notQuote, notBackslash, written⟩
  · rw [written, List.cons_append, List.singleton_append, inside.eq_def]
    simp [notCode, short]
  · rw [written]
    simp only [List.cons_append, List.nil_append]
    rw [inside.eq_def]
    simp [hexCode?_control control, Piece.ofCode_toNat control]
  · rw [written, List.singleton_append, inside.eq_def]
    simp [notQuote, notBackslash, printable]

theorem inside_flatMap_escape (cs text : List Char) :
    inside (cs.flatMap Json.escape ++ '"' :: text) = ⟨cs.map .char, .ok text⟩ := by
  induction cs with
  | nil => simp [inside_quote]
  | cons c rest ih =>
      rw [List.flatMap_cons, List.append_assoc, inside_escape, ih]
      rfl

theorem Inside.join_map_char (cs : List Char) : join none (cs.map .char) = .ok cs := by
  induction cs with
  | nil => rfl
  | cons c rest ih =>
      rw [List.map_cons, join, ih]
      rfl

/-- A quoted string is scanned as one token. -/
theorem scanOne_quote (s : String) (text : List Char) :
    scanOne '"' (s.toList.flatMap Json.escape ++ '"' :: text) = (.str s, some text) := by
  have found : scanOne '"' (s.toList.flatMap Json.escape ++ '"' :: text) =
      (inside (s.toList.flatMap Json.escape ++ '"' :: text)).step := by
    simp [scanOne]
  rw [found, inside_flatMap_escape]
  simp [Inside.step, Inside.join_map_char, String.ofList_toList]

/-! ### Integers -/

/-- The text does not go on with a part of a number. -/
def EndsNumber (text : List Char) : Prop :=
  ∀ c ∈ text.head?, c.isDigit = false ∧ c ≠ '.' ∧ c ≠ 'e' ∧ c ≠ 'E'

theorem endsNumber_nil : EndsNumber [] := by
  rintro _ ⟨⟩

theorem endsNumber_cons {c : Char} {text : List Char}
    (h : c.isDigit = false ∧ c ≠ '.' ∧ c ≠ 'e' ∧ c ≠ 'E') : EndsNumber (c :: text) := by
  rintro _ ⟨⟩
  exact h

theorem spanDigits_append {digits text : List Char} (all : ∀ c ∈ digits, c.isDigit = true)
    (ends : EndsNumber text) : spanDigits (digits ++ text) = (digits, text) := by
  have stop : text.takeWhile Char.isDigit = [] ∧ text.dropWhile Char.isDigit = text := by
    cases text with
    | nil => exact ⟨rfl, rfl⟩
    | cons c rest =>
        have notDigit := (ends c rfl).1
        simp [notDigit]
  rw [spanDigits, List.takeWhile_append_of_pos all, List.dropWhile_append_of_pos all, stop.1,
    stop.2, List.append_nil]

theorem scanFraction_of_endsNumber (d : Decimal) {text : List Char} (ends : EndsNumber text) :
    scanFraction d text = (d.token, some text) := by
  cases text with
  | nil => rfl
  | cons c rest =>
      obtain ⟨-, notPoint, notLower, notUpper⟩ := ends c rfl
      unfold scanFraction
      split
      next same => exact absurd (List.cons.inj same).1 notPoint
      next => simp [scanExponent, notLower, notUpper]

/-- No number but zero starts with the digit zero. -/
theorem head?_toDigits {n : Nat} (zero : (Nat.toDigits 10 n).head? = some '0') : n = 0 := by
  induction n using Nat.strongRecOn with
  | ind n ih =>
      by_cases small : n < 10
      · have digit : ∀ d < 10, Nat.digitChar d = '0' → d = 0 := by decide
        rw [Nat.toDigits_of_lt_base small] at zero
        exact digit n small (Option.some.inj zero)
      · have more : Nat.toDigits 10 n = Nat.toDigits 10 (n / 10) ++ [Nat.digitChar (n % 10)] :=
          Nat.toDigits_of_base_le (by decide) (by omega)
        obtain ⟨c, rest, first⟩ := List.exists_cons_of_ne_nil (Nat.toDigits_ne_nil (n := n / 10))
        rw [more, first] at zero
        have none : n / 10 = 0 := ih (n / 10) (by omega) (by rw [first]; exact zero)
        omega

theorem scanNumber_toDigits (negative : Bool) (n : Nat) {text : List Char}
    (ends : EndsNumber text) :
    scanNumber negative (Nat.toDigits 10 n ++ text) =
      (Decimal.token ⟨negative, Nat.toDigits 10 n, none, none⟩, some text) := by
  have digits : ∀ c ∈ Nat.toDigits 10 n, c.isDigit = true :=
    fun c h => Nat.isDigit_of_mem_toDigits (by decide) (by decide) h
  have leading : ¬ ((Nat.toDigits 10 n).head? = some '0' ∧ 1 < (Nat.toDigits 10 n).length) := by
    rintro ⟨zero, long⟩
    rw [head?_toDigits zero, Nat.toDigits_zero] at long
    exact absurd long (by decide)
  simp [scanNumber, spanDigits_append digits ends, Nat.toDigits_ne_nil, leading,
    scanFraction_of_endsNumber _ ends]

theorem Decimal.token_toDigits {n : Nat} (fits : n < UInt64.size) :
    Decimal.token ⟨false, Nat.toDigits 10 n, none, none⟩ = .int n := by
  simp [Decimal.token, decimalValue, Nat.ofDigitChars_ten_toDigits, fits]

theorem Decimal.token_neg_toDigits {n : Nat} (positive : 0 < n) (fits : n ≤ 0x8000000000000000) :
    Decimal.token ⟨true, Nat.toDigits 10 n, none, none⟩ = .int (-n) := by
  simp [Decimal.token, decimalValue, Nat.ofDigitChars_ten_toDigits, positive, fits]

/-- What a number starts with is neither a bracket nor a separator nor the start
of a word. -/
theorem scanOne_digit {c : Char} (digit : c.isDigit = true) (text : List Char) :
    scanOne c text = scanNumber false (c :: text) ∧ isBlank c = false := by
  have other : ∀ d : Char, d.isDigit = false → c ≠ d := by
    rintro d notDigit rfl
    rw [digit] at notDigit
    cases notDigit
  simp [scanOne, digit, isBlank, other]

/-! ### Values -/

/-- The scanner takes `chars` for one token, whatever follows. -/
structure Lexeme (chars : List Char) (token : Token) : Prop where
  length_pos : 0 < chars.length
  scan (text : List Char) (bound : Nat) :
    scanFrom (bound + 1) (chars ++ text) = token :: scanFrom bound text

/-- The scanner takes `chars` for `tokens`, unless they end in a number that goes
on. -/
structure Scans (chars : List Char) (tokens : List Token) : Prop where
  length_le : tokens.length ≤ chars.length
  scan (text : List Char) (bound : Nat) : EndsNumber text →
    scanFrom (tokens.length + bound) (chars ++ text) = tokens ++ scanFrom bound text

theorem Lexeme.scans {chars : List Char} {token : Token} (lexeme : Lexeme chars token) :
    Scans chars [token] where
  length_le := lexeme.length_pos
  scan text bound _ := by
    rw [List.length_singleton, Nat.add_comm]
    exact lexeme.scan text bound

theorem Lexeme.andThen {chars chars' : List Char} {token : Token} {tokens : List Token}
    (first : Lexeme chars token) (second : Scans chars' tokens) :
    Scans (chars ++ chars') (token :: tokens) where
  length_le := by
    have := first.length_pos
    have := second.length_le
    rw [List.length_cons, List.length_append]
    omega
  scan text bound ends := by
    rw [List.length_cons, Nat.add_right_comm, List.append_assoc, first.scan,
      second.scan text bound ends, List.cons_append]

theorem Scans.andThen {chars chars' : List Char} {tokens tokens' : List Token}
    (first : Scans chars tokens) (second : Scans chars' tokens')
    (ends : ∀ text, EndsNumber (chars' ++ text)) :
    Scans (chars ++ chars') (tokens ++ tokens') where
  length_le := by
    have := first.length_le
    have := second.length_le
    rw [List.length_append, List.length_append]
    omega
  scan text bound ends' := by
    rw [List.length_append, Nat.add_assoc, List.append_assoc, first.scan _ _ (ends text),
      second.scan text bound ends', List.append_assoc]

theorem scanFrom_cons {c : Char} {text rest : List Char} {token : Token}
    (blank : isBlank c = false) (one : scanOne c text = (token, some rest)) (bound : Nat) :
    scanFrom (bound + 1) (c :: text) = token :: scanFrom bound rest := by
  simp [scanFrom, blank, one]

/-- Brackets and separators. -/
theorem lexeme_mark {c : Char} {token : Token} (blank : isBlank c = false)
    (one : ∀ text, scanOne c text = (token, some text)) : Lexeme [c] token where
  length_pos := Nat.zero_lt_one
  scan text bound := scanFrom_cons blank (one text) bound

theorem lexeme_quote (s : String) : Lexeme (Json.quote s) (.str s) where
  length_pos := Nat.zero_lt_succ _
  scan text bound := by
    rw [Json.quote, List.cons_append, List.append_assoc, List.singleton_append]
    exact scanFrom_cons (by decide) (scanOne_quote s text) bound

theorem lexeme_null : Lexeme ['n', 'u', 'l', 'l'] .null where
  length_pos := by decide
  scan text bound := scanFrom_cons (by decide) rfl bound

theorem lexeme_true : Lexeme ['t', 'r', 'u', 'e'] (.bool true) where
  length_pos := by decide
  scan text bound := scanFrom_cons (by decide) rfl bound

theorem lexeme_false : Lexeme ['f', 'a', 'l', 's', 'e'] (.bool false) where
  length_pos := by decide
  scan text bound := scanFrom_cons (by decide) rfl bound

/-- An integer is one token, unless it goes on. -/
theorem scanFrom_int {n : Int} (low : -0x8000000000000000 ≤ n) (high : n < UInt64.size)
    {text : List Char} (ends : EndsNumber text) (bound : Nat) :
    scanFrom (bound + 1) ((toString n).toList ++ text) = .int n :: scanFrom bound text := by
  cases n with
  | ofNat m =>
      have written : (toString (Int.ofNat m)).toList = Nat.toDigits 10 m := Nat.toList_repr
      obtain ⟨c, rest, digits⟩ :=
        List.exists_cons_of_ne_nil (Nat.toDigits_ne_nil (n := m) (b := 10))
      have digit : c.isDigit = true :=
        Nat.isDigit_of_mem_toDigits (b := 10) (n := m) (by decide) (by decide) (by simp [digits])
      obtain ⟨number, blank⟩ := scanOne_digit digit (rest ++ text)
      rw [written, digits, List.cons_append]
      refine scanFrom_cons blank ?_ bound
      rw [number, ← List.cons_append, ← digits, scanNumber_toDigits false m ends,
        Decimal.token_toDigits (Int.ofNat_lt.mp high)]
      rfl
  | negSucc m =>
      have written : (toString (Int.negSucc m)).toList = '-' :: Nat.toDigits 10 (m + 1) := by
        show ("-" ++ Nat.repr (m + 1)).toList = _
        rw [String.toList_append, Nat.toList_repr]
        rfl
      rw [written, List.cons_append]
      refine scanFrom_cons (by decide) ?_ bound
      have number : scanOne '-' (Nat.toDigits 10 (m + 1) ++ text) =
          scanNumber true (Nat.toDigits 10 (m + 1) ++ text) := by simp [scanOne]
      rw [number, scanNumber_toDigits true (m + 1) ends,
        Decimal.token_neg_toDigits (by omega) (by omega)]
      rfl

theorem scans_int {n : Int} (low : -0x8000000000000000 ≤ n) (high : n < UInt64.size) :
    Scans (toString n).toList [.int n] where
  length_le := by
    show 0 < (toString n).toList.length
    rw [List.length_pos_iff]
    intro empty
    -- An empty text has no token.
    have none : scanFrom 1 ((toString n).toList ++ []) = .int n :: scanFrom 0 [] :=
      scanFrom_int low high endsNumber_nil 0
    rw [empty] at none
    cases none
  scan text bound ends := by
    rw [List.length_singleton, Nat.add_comm, List.singleton_append]
    exact scanFrom_int low high ends bound

theorem lexeme_comma : Lexeme [','] .comma := lexeme_mark (by decide) fun _ => rfl

theorem lexeme_colon : Lexeme [':'] .colon := lexeme_mark (by decide) fun _ => rfl

theorem endsNumber_charsItems (items : List Json) (text : List Char) :
    EndsNumber (Json.charsItems items ++ text) := by
  cases items <;> exact endsNumber_cons (by decide)

theorem endsNumber_charsEntries (entries : List (String × Json)) (text : List Char) :
    EndsNumber (Json.charsEntries entries ++ text) := by
  cases entries <;> exact endsNumber_cons (by decide)

theorem scans_items {items : List Json} (scans : ∀ item ∈ items, Scans item.chars item.tokens) :
    Scans (Json.charsItems items) (Json.tokensItems items) := by
  induction items with
  | nil => exact (lexeme_mark (by decide) fun _ => rfl).scans
  | cons item rest ih =>
      have first := scans item (by simp)
      have others := ih fun item h => scans item (by simp [h])
      exact lexeme_comma.andThen (first.andThen others (endsNumber_charsItems rest))

theorem scans_entries {entries : List (String × Json)}
    (scans : ∀ e ∈ entries, Scans e.2.chars e.2.tokens) :
    Scans (Json.charsEntries entries) (Json.tokensEntries entries) := by
  induction entries with
  | nil => exact (lexeme_mark (by decide) fun _ => rfl).scans
  | cons e rest ih =>
      obtain ⟨key, value⟩ := e
      have first : Scans value.chars value.tokens := scans (key, value) (by simp)
      have others := ih fun e h => scans e (by simp [h])
      exact lexeme_comma.andThen <| (lexeme_quote key).andThen <| lexeme_colon.andThen <|
        first.andThen others (endsNumber_charsEntries rest)

/-- The scanner finds the tokens of a plain value. -/
theorem scans_chars {j : Json} (plain : j.Plain) : Scans j.chars j.tokens := by
  induction plain with
  | null => exact lexeme_null.scans
  | bool b =>
      cases b
      · exact lexeme_false.scans
      · exact lexeme_true.scans
  | int low high => exact scans_int low high
  | str s => exact (lexeme_quote s).scans
  | @arr items _ ih =>
      have bracket : Lexeme ['['] .openBracket := lexeme_mark (by decide) fun _ => rfl
      cases items with
      | nil => exact bracket.andThen (lexeme_mark (by decide) fun _ => rfl).scans
      | cons item rest =>
          have first := ih item (by simp)
          have others : Scans (Json.charsItems rest) (Json.tokensItems rest) :=
            scans_items fun item h => ih item (by simp [h])
          exact bracket.andThen (first.andThen others (endsNumber_charsItems rest))
  | @obj entries _ ih =>
      have brace : Lexeme ['{'] .openBrace := lexeme_mark (by decide) fun _ => rfl
      cases entries with
      | nil => exact brace.andThen (lexeme_mark (by decide) fun _ => rfl).scans
      | cons e rest =>
          obtain ⟨key, value⟩ := e
          have first : Scans value.chars value.tokens := ih (key, value) (by simp)
          have others : Scans (Json.charsEntries rest) (Json.tokensEntries rest) :=
            scans_entries fun e h => ih e (by simp [h])
          exact brace.andThen <| (lexeme_quote key).andThen <| lexeme_colon.andThen <|
            first.andThen others (endsNumber_charsEntries rest)

/-- The tokens of a printed plain value. -/
theorem scan_chars {j : Json} (plain : j.Plain) : scan j.chars = j.tokens := by
  have scans := scans_chars plain
  obtain ⟨spare, length⟩ := Nat.exists_eq_add_of_le scans.length_le
  have found := scans.scan [] spare endsNumber_nil
  rw [List.append_nil] at found
  rw [scan, length, found]
  cases spare <;> exact List.append_nil _

end Token

/-! ### Reading -/

namespace Doc

/-- The reader puts the tokens of a value together again. -/
def Reads (j : Json) : Prop :=
  ∀ (rest : List Token) (bound : Nat), 3 * j.tokens.length ≤ bound →
    readValue bound (j.tokens ++ rest) = (ofJson j, some rest)

/-- A value does not start with the end of an array. -/
theorem tokens_eq_cons (j : Json) :
    ∃ token more, j.tokens = token :: more ∧ token ≠ .closeBracket := by
  rcases j with _ | _ | _ | _ | _ | ⟨_ | _⟩ | ⟨_ | _⟩ <;> exact ⟨_, _, rfl, nofun⟩

theorem readItems_tokens {item : Json} {items : List Json} (reads : ∀ j ∈ item :: items, Reads j)
    (rest : List Token) (bound : Nat)
    (enough : 3 * (item.tokens ++ Json.tokensItems items).length ≤ bound) :
    readItems bound (item.tokens ++ (Json.tokensItems items ++ rest)) =
      (ofItems (item :: items), none, some rest) := by
  induction items generalizing item bound with
  | nil =>
      have step : 3 * item.tokens.length + 3 ≤ bound := by
        simpa [Json.tokensItems, Nat.mul_add] using enough
      obtain ⟨bound, rfl⟩ : ∃ b, bound = b + 1 := ⟨bound - 1, by omega⟩
      rw [readItems, reads item (by simp) _ bound (by omega)]
      rfl
  | cons next items ih =>
      have step : 3 * item.tokens.length + 3 + 3 * (next.tokens ++ Json.tokensItems items).length ≤
          bound := by
        simp only [Json.tokensItems, List.length_append, List.length_cons] at enough ⊢
        omega
      obtain ⟨bound, rfl⟩ : ∃ b, bound = b + 1 := ⟨bound - 1, by omega⟩
      have others := ih (fun j h => reads j (List.mem_cons_of_mem item h)) bound (by omega)
      rw [readItems, reads item (by simp) _ bound (by omega)]
      simp only [Json.tokensItems, List.cons_append, List.append_assoc, others]
      rfl

theorem readEntries_tokens {key : String} {value : Json} {entries : List (String × Json)}
    (reads : ∀ e ∈ (key, value) :: entries, Reads e.2) (behindComma : Bool) (rest : List Token)
    (bound : Nat) (enough : 3 * (value.tokens ++ Json.tokensEntries entries).length + 3 ≤ bound) :
    readEntries bound behindComma
        (.str key :: .colon :: (value.tokens ++ (Json.tokensEntries entries ++ rest))) =
      (ofEntries ((key, value) :: entries), none, some rest) := by
  induction entries generalizing key value bound behindComma with
  | nil =>
      have step : 3 * value.tokens.length + 3 ≤ bound := by
        simp only [List.length_append] at enough
        omega
      obtain ⟨bound, rfl⟩ : ∃ b, bound = b + 2 := ⟨bound - 2, by omega⟩
      have first : Reads value := reads (key, value) (by simp)
      simp only [readEntries, readEntry]
      rw [first _ bound (by omega)]
      rfl
  | cons e entries ih =>
      obtain ⟨key', value'⟩ := e
      have step : 3 * value.tokens.length + 6 +
          (3 * (value'.tokens ++ Json.tokensEntries entries).length + 3) ≤ bound := by
        simp only [Json.tokensEntries, List.length_append, List.length_cons] at enough ⊢
        omega
      obtain ⟨bound, rfl⟩ : ∃ b, bound = b + 2 := ⟨bound - 2, by omega⟩
      have first : Reads value := reads (key, value) (by simp)
      have others :=
        ih (fun e h => reads e (List.mem_cons_of_mem (key, value) h)) true bound (by omega)
      simp only [readEntries, readEntry]
      rw [first _ bound (by omega)]
      simp only [Json.tokensEntries, List.cons_append, List.append_assoc, others]
      rfl

/-- A value has a token, so the reader may look at the first. -/
theorem reads_of_step {j : Json}
    (step : ∀ (rest : List Token) (bound : Nat), 3 * j.tokens.length ≤ bound + 1 →
      readValue (bound + 1) (j.tokens ++ rest) = (ofJson j, some rest)) : Reads j := by
  intro rest bound enough
  obtain ⟨token, more, tokens, -⟩ := tokens_eq_cons j
  have first : 0 < j.tokens.length := by simp [tokens]
  obtain ⟨bound, rfl⟩ : ∃ b, bound = b + 1 := ⟨bound - 1, by omega⟩
  exact step rest bound enough

/-- Reading the tokens of a plain value gives its document. -/
theorem reads_of_plain {j : Json} (plain : j.Plain) : Reads j := by
  induction plain with
  | null | bool | int | str => exact reads_of_step fun _ _ _ => rfl
  | @arr items _ ih =>
      refine reads_of_step fun rest bound enough => ?_
      cases items with
      | nil => rfl
      | cons item items =>
          have found := readItems_tokens ih rest bound (by
            simp only [Json.tokens, List.length_cons] at enough
            omega)
          obtain ⟨token, more, tokens, notClosed⟩ := tokens_eq_cons item
          rw [tokens, List.cons_append] at found
          simp only [Json.tokens, tokens, List.cons_append, List.append_assoc]
          simp [readValue, found, ofJson]
  | @obj entries _ ih =>
      refine reads_of_step fun rest bound enough => ?_
      cases entries with
      | nil => rfl
      | cons e entries =>
          obtain ⟨key, value⟩ := e
          have found := readEntries_tokens ih false rest bound (by
            simp only [Json.tokens, List.length_cons] at enough
            omega)
          simp only [Json.tokens, List.cons_append, List.append_assoc, readValue, found, ofJson]

/-- The compact text of a plain value holds the value and nothing else. -/
theorem ofText_chars {j : Json} (plain : j.Plain) : ofText j.chars = (ofJson j, true) := by
  have found := reads_of_plain plain [] (3 * j.tokens.length + 3) (by omega)
  rw [List.append_nil] at found
  simp [ofText, Token.scan_chars plain, found]

end Doc

/-! ### Nesting -/

namespace Token

/-- The most brackets and braces that are open at once in `tokens`, when `depth`
of them are open before. -/
def depthFrom (depth : Nat) : List Token → Nat
  | [] => depth
  | .openBrace :: rest | .openBracket :: rest => depthFrom (depth + 1) rest
  | .closeBrace :: rest | .closeBracket :: rest => max depth (depthFrom (depth - 1) rest)
  | _ :: rest => depthFrom depth rest

/-- How deeply the arrays and objects of a text nest. -/
def nesting (text : List Char) : Nat := depthFrom 0 (scan text)

theorem le_depthFrom (depth : Nat) (tokens : List Token) : depth ≤ depthFrom depth tokens := by
  fun_induction depthFrom depth tokens with
  | case1 => exact Nat.le_refl _
  | case2 | case3 => omega
  | case4 | case5 => exact Nat.le_max_left _ _
  | case6 _ _ _ _ _ _ _ ih => exact ih

mutual

theorem depthFrom_tokens (depth : Nat) (rest : List Token) : ∀ j : Json,
    depthFrom depth (j.tokens ++ rest) = max (depth + j.nesting) (depthFrom depth rest)
  | .null | .bool _ | .int _ | .double _ | .str _ =>
      (Nat.max_eq_right (le_depthFrom depth rest)).symm
  | .arr [] | .obj [] => rfl
  | .arr (item :: items) => by
      have first := depthFrom_tokens (depth + 1) (Json.tokensItems items ++ rest) item
      have others := depthFrom_tokensItems depth rest items
      simp only [Json.tokens, List.cons_append, List.append_assoc, depthFrom, first, others,
        Json.nesting, Json.nestingItems]
      omega
  | .obj ((key, value) :: entries) => by
      have first := depthFrom_tokens (depth + 1) (Json.tokensEntries entries ++ rest) value
      have others := depthFrom_tokensEntries depth rest entries
      simp only [Json.tokens, List.cons_append, List.append_assoc, depthFrom, first, others,
        Json.nesting, Json.nestingEntries]
      omega

theorem depthFrom_tokensItems (depth : Nat) (rest : List Token) : ∀ items : List Json,
    depthFrom (depth + 1) (Json.tokensItems items ++ rest) =
      max (depth + 1 + Json.nestingItems items) (depthFrom depth rest)
  | [] => rfl
  | item :: items => by
      have first := depthFrom_tokens (depth + 1) (Json.tokensItems items ++ rest) item
      have others := depthFrom_tokensItems depth rest items
      simp only [Json.tokensItems, List.cons_append, List.append_assoc, depthFrom, first, others,
        Json.nestingItems]
      omega

theorem depthFrom_tokensEntries (depth : Nat) (rest : List Token) :
    ∀ entries : List (String × Json),
      depthFrom (depth + 1) (Json.tokensEntries entries ++ rest) =
        max (depth + 1 + Json.nestingEntries entries) (depthFrom depth rest)
  | [] => rfl
  | (key, value) :: entries => by
      have first := depthFrom_tokens (depth + 1) (Json.tokensEntries entries ++ rest) value
      have others := depthFrom_tokensEntries depth rest entries
      simp only [Json.tokensEntries, List.cons_append, List.append_assoc, depthFrom, first, others,
        Json.nestingEntries]
      omega

end

/-- A printed value nests as deeply as the value. -/
theorem nesting_chars {j : Json} (plain : j.Plain) : nesting j.chars = j.nesting := by
  have found := depthFrom_tokens 0 [] j
  rw [List.append_nil] at found
  rw [nesting, scan_chars plain, found, depthFrom, Nat.zero_add, Nat.max_zero]

end Token

end Scopewise
