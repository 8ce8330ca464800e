/-
The source-like text of a program is unambiguous.

If all names of a program are identifiers, its text determines it up to spans:
`Program.text_eq_iff` says that two such programs have the same text exactly if
they are the same program without their spans. Names are not checked anywhere
else; that they are identifiers is what a parser supplies.

A text is made of words, which are names, keywords and numbers, and of marks,
and no word goes on where a mark stands. So words can be read off a text, and a
word tells what it is (`Expr.tagOfWord`). Full parentheses make expressions
legible (`Expr.legible_text`), and the first word of a statement with the mark
behind it tells the form of the statement (`Stmt.tagOf_text`).
-/

import Scopewise.Proofs.Legibility
import Scopewise.Tree.Render

namespace Scopewise

/-! ### Names and words -/

/-- A letter or an underscore. Every character outside ASCII counts as a letter,
so that no alphabet is left out. -/
def startsName (c : Char) : Bool := c.isAlpha || c == '_' || 128 ≤ c.toNat

/-- A letter, an underscore or a digit. -/
def continuesName (c : Char) : Bool := startsName c || c.isDigit

theorem startsName_of_isDigit {c : Char} (digit : c.isDigit = true) : startsName c = false := by
  have digits : ∀ n < 58, 48 ≤ n → startsName (Char.ofNat n) = false := by decide
  obtain ⟨low, high⟩ := Char.isDigit_iff_toNat.mp digit
  rw [← Char.ofNat_toNat c]
  exact digits c.toNat (Nat.lt_succ_of_le high) low

/-- The words that have a meaning of their own in the text of a program. -/
def reservedWords : List String := ["int", "bool", "void", "return", "true", "false"]

/-- A letter or underscore, followed by letters, digits and underscores; and no
reserved word. -/
structure IsIdentifier (name : String) : Prop where
  starts : name.toList.head?.any startsName = true
  continues : name.toList.all continuesName = true
  unreserved : name ∉ reservedWords

instance (name : String) : Decidable (IsIdentifier name) :=
  decidable_of_iff
    (name.toList.head?.any startsName = true ∧ name.toList.all continuesName = true ∧
      name ∉ reservedWords)
    ⟨fun ⟨starts, continues, unreserved⟩ => ⟨starts, continues, unreserved⟩,
      fun ⟨starts, continues, unreserved⟩ => ⟨starts, continues, unreserved⟩⟩

/-- The characters of names, keywords and numbers. -/
def isWordChar (c : Char) : Bool := continuesName c || c == '-'

/-- The text is one word. -/
def isWord (text : String) : Bool := text.toList.all isWordChar

/-- The word before a mark can be read off. -/
theorem word_cancel {word word' : String} {rest rest' : List Char} (first : isWord word = true)
    (first' : isWord word' = true) (stops : Stops isWordChar rest)
    (stops' : Stops isWordChar rest') (same : word.toList ++ rest = word'.toList ++ rest') :
    word = word' ∧ rest = rest' := by
  obtain ⟨words, rests⟩ := (legible_run isWordChar).cancel (List.all_eq_true.mp first)
    (List.all_eq_true.mp first') stops stops' same
  exact ⟨String.toList_inj.mp words, rests⟩

theorem IsIdentifier.isWord {name : String} (isName : IsIdentifier name) :
    isWord name = true := by
  rw [Scopewise.isWord, List.all_eq_true]
  intro c mem
  rw [isWordChar, List.all_eq_true.mp isName.continues c mem, Bool.true_or]

theorem IsIdentifier.exists_cons {name : String} (isName : IsIdentifier name) :
    ∃ c more, name.toList = c :: more ∧ startsName c = true := by
  have starts := isName.starts
  cases text : name.toList with
  | nil =>
      rw [text] at starts
      cases starts
  | cons c more =>
      rw [text] at starts
      exact ⟨c, more, rfl, starts⟩

theorem TypeName.isWord_text (type : TypeName) : isWord type.text = true := by
  cases type <;> decide

/-! ### Expressions -/

namespace Expr

/-- All variables have identifiers for names. -/
def WellNamed (e : Expr) : Prop := ∀ x ∈ e.names, IsIdentifier x

/-- An expression without operands. -/
def isLeaf : Expr → Bool
  | .binary .. => false
  | .number .. | .boolean .. | .var .. => true

/-- The tag of the leaf that is written as `word`. -/
def tagOfWord (word : String) : String :=
  if word = "true" ∨ word = "false" then "Boolean"
  else if word.toList.head?.any startsName then "Variable"
  else "Number"

variable {e e' : Expr}

theorem isWord_text (leaf : e.isLeaf = true) (named : e.WellNamed) :
    isWord e.text = true := by
  cases e with
  | binary left op right span => cases leaf
  | number value span =>
      rw [isWord, List.all_eq_true]
      intro c mem
      rcases Constant.mem_text_int mem with digit | rfl
      · simp [isWordChar, continuesName, digit]
      · decide
  | boolean value span =>
      rw [Expr.text]
      cases value <;> decide
  | var name span => exact (named name (List.mem_singleton_self name)).isWord

theorem tagOfWord_text (leaf : e.isLeaf = true) (named : e.WellNamed) :
    tagOfWord e.text = e.tag := by
  cases e with
  | binary left op right span => cases leaf
  | number value span =>
      -- Neither a digit nor a sign starts a name or a truth value.
      have other : (Constant.int value).text.toList.head?.any startsName = false := by
        rw [Option.any_eq_false]
        intro c first
        rcases Constant.mem_text_int (List.mem_of_mem_head? first) with digit | rfl
        · exact startsName_of_isDigit digit
        · decide
      have noTruth :
          ¬ ((Constant.int value).text = "true" ∨ (Constant.int value).text = "false") := by
        rintro (truth | truth) <;> rw [truth] at other <;> cases other
      rw [Expr.text, tagOfWord, if_neg noTruth, other]
      rfl
  | boolean value span =>
      rw [Expr.text]
      cases value <;> rfl
  | var name span =>
      have isName := named name (List.mem_singleton_self name)
      have noTruth : ¬ (name = "true" ∨ name = "false") := by
        rintro (rfl | rfl) <;> exact isName.unreserved (by decide)
      rw [Expr.text, tagOfWord, if_neg noTruth, if_pos isName.starts, tag]

/-- A word tells which leaf it is. -/
theorem map_eq_of_text_eq (leaf : e.isLeaf = true) (leaf' : e'.isLeaf = true)
    (named : e.WellNamed) (named' : e'.WellNamed)
    (same : e.text = e'.text) : e.map .unplaced = e'.map .unplaced := by
  have tags : e.tag = e'.tag := by
    rw [← tagOfWord_text leaf named, ← tagOfWord_text leaf' named', same]
  cases e <;> cases e' <;>
    simp only [tag, isLeaf, reduceCtorEq, String.reduceEq] at tags leaf leaf'
  case number.number value span value' span' =>
    rw [Constant.text_int_injective same]
    rfl
  case boolean.boolean value span value' span' =>
    rw [Constant.text_bool_injective same]
    rfl
  case var.var name span name' span' =>
    cases same
    rfl

theorem text_ne_nil (leaf : e.isLeaf = true) (named : e.WellNamed) :
    e.text.toList ≠ [] := by
  cases e with
  | binary left op right span => cases leaf
  | number value span =>
      rw [Expr.text, Constant.text, Int.toString_eq_repr, Int.repr_eq_if]
      split <;> simp
  | boolean value span =>
      rw [Expr.text]
      cases value <;> decide
  | var name span =>
      obtain ⟨c, more, text, -⟩ := (named name (List.mem_singleton_self name)).exists_cons
      rw [Expr.text, text]
      exact List.cons_ne_nil c more

theorem toList_text_binary (left : Expr) (op : Operator) (right : Expr) (span : Span) :
    (binary left op right span).text.toList =
      '(' :: (left.text.toList ++
        ' ' :: (op.symbol.toList ++ ' ' :: (right.text.toList ++ [')']))) := by
  simp [Expr.text]

/-- A leaf is a word, and no word starts with a parenthesis. -/
theorem cancel_leaf {rest rest' : List Char} (leaf : e.isLeaf = true)
    (named : e.WellNamed) (named' : e'.WellNamed)
    (stops : Stops isWordChar rest) (stops' : Stops isWordChar rest')
    (same : e.text.toList ++ rest = e'.text.toList ++ rest') :
    e.map .unplaced = e'.map .unplaced ∧ rest = rest' := by
  cases leaf' : e'.isLeaf with
  | true =>
      obtain ⟨texts, rests⟩ :=
        word_cancel (isWord_text leaf named) (isWord_text leaf' named') stops stops' same
      exact ⟨map_eq_of_text_eq leaf leaf' named named' texts, rests⟩
  | false =>
      cases e' with
      | number | boolean | var => cases leaf'
      | binary left op right span =>
          obtain ⟨c, more, text⟩ := List.exists_cons_of_ne_nil (text_ne_nil leaf named)
          have word : isWordChar c = true := by
            have all := List.all_eq_true.mp (isWord_text leaf named)
            exact all c (by simp [text])
          rw [text, toList_text_binary, List.cons_append, List.cons_append] at same
          rw [(List.cons.inj same).1] at word
          cases word

theorem symbol_cancel {op op' : Operator} {rest rest' : List Char}
    (same : op.symbol.toList ++ ' ' :: rest = op'.symbol.toList ++ ' ' :: rest') :
    op = op' ∧ rest = rest' := by
  have unmarked (op : Operator) : ' ' ∉ op.symbol.toList := by cases op <;> decide
  have marked : (op.symbol.toList ++ [' ']) ++ rest = (op'.symbol.toList ++ [' ']) ++ rest' := by
    simpa using same
  obtain ⟨symbols, rests⟩ :=
    (legible_marked ' ').cancel (unmarked op) (unmarked op') trivial trivial marked
  have spelled := congrArg Operator.ofSymbol? (String.toList_inj.mp symbols)
  rw [Operator.ofSymbol?_symbol, Operator.ofSymbol?_symbol] at spelled
  exact ⟨Option.some.inj spelled, rests⟩

/-- An expression can be read off a text, up to where no word goes on. -/
theorem legible_text : Legible WellNamed (fun e => e.text.toList) (Expr.map .unplaced)
    (Stops isWordChar) := by
  constructor
  intro e
  induction e with
  | number | boolean | var =>
      intro e' rest rest' named named' stops stops' same
      exact cancel_leaf rfl named named' stops stops' same
  | binary left op right span ihLeft ihRight =>
      intro e' rest rest' named named' stops stops' same
      cases leaf' : e'.isLeaf with
      | true =>
          obtain ⟨maps, rests⟩ := cancel_leaf leaf' named' named stops' stops same.symm
          exact ⟨maps.symm, rests.symm⟩
      | false =>
          cases e' with
          | number | boolean | var => cases leaf'
          | binary left' op' right' span' =>
              rw [WellNamed, names, List.forall_mem_append] at named named'
              simp only [toList_text_binary, List.cons_append, List.append_assoc, List.nil_append,
                List.cons.injEq, true_and] at same
              obtain ⟨lefts, behindLeft⟩ := ihLeft named.1 named'.1 (stops_cons (by decide) _)
                (stops_cons (by decide) _) same
              obtain ⟨ops, behindOp⟩ := symbol_cancel (List.cons.inj behindLeft).2
              obtain ⟨rights, behindRight⟩ := ihRight named.2 named'.2
                (stops_cons (by decide) _) (stops_cons (by decide) _) behindOp
              refine ⟨?_, (List.cons.inj behindRight).2⟩
              rw [Expr.map, Expr.map, lefts, ops, rights]
              rfl

end Expr

/-! ### Declared variables and parameters -/

/-- The name and all variables of the initial value are identifiers. -/
def VarDecl.WellNamed (v : VarDecl) : Prop :=
  IsIdentifier v.name ∧ ∀ x ∈ Expr.optionalNames v.init, IsIdentifier x

/-- The text of a variable behind its name. -/
def VarDecl.initText (v : VarDecl) : List Char :=
  match v.init with
  | some init => ' ' :: '=' :: ' ' :: init.text.toList
  | none => []

theorem VarDecl.toList_text (v : VarDecl) : v.text.toList = v.name.toList ++ v.initText := by
  unfold text initText
  cases v.init <;> simp

/-- A comma or a semicolon is behind every declared variable. -/
def EndsVar (rest : List Char) : Prop := rest.head? = some ',' ∨ rest.head? = some ';'

theorem EndsVar.stops {rest : List Char} (ends : EndsVar rest) : Stops isWordChar rest := by
  intro c first
  rcases ends with mark | mark
  · cases mark.symm.trans first
    decide
  · cases mark.symm.trans first
    decide

theorem not_endsVar_blank (rest : List Char) : ¬ EndsVar (' ' :: rest) := by
  simp [EndsVar]

theorem VarDecl.initText_stops (v : VarDecl) {rest : List Char} (ends : EndsVar rest) :
    Stops isWordChar (v.initText ++ rest) := by
  unfold initText
  cases v.init with
  | some init => exact stops_cons (by decide) _
  | none => exact ends.stops

theorem VarDecl.legible_text :
    Legible WellNamed (fun v => v.text.toList) (VarDecl.map .unplaced) EndsVar := by
  constructor
  intro v v' rest rest' named named' ends ends' same
  rw [toList_text, toList_text, List.append_assoc, List.append_assoc] at same
  obtain ⟨names, behind⟩ := word_cancel named.1.isWord named'.1.isWord (v.initText_stops ends)
    (v'.initText_stops ends') same
  rw [VarDecl.map, VarDecl.map, names]
  unfold initText at behind
  cases init : v.init with
  | none =>
      cases init' : v'.init with
      | none =>
          simp only [init, init', List.nil_append] at behind
          exact ⟨rfl, behind⟩
      | some value' =>
          simp only [init, init', List.nil_append, List.cons_append] at behind
          exact absurd (behind ▸ ends) (not_endsVar_blank _)
  | some value =>
      cases init' : v'.init with
      | none =>
          simp only [init, init', List.nil_append, List.cons_append] at behind
          exact absurd (behind ▸ ends') (not_endsVar_blank _)
      | some value' =>
          simp only [init, init', List.cons_append, List.cons.injEq, true_and] at behind
          rw [WellNamed, init] at named
          rw [WellNamed, init'] at named'
          obtain ⟨values, rests⟩ :=
            Expr.legible_text.cancel named.2 named'.2 ends.stops ends'.stops behind
          refine ⟨?_, rests⟩
          rw [Option.map_some, Option.map_some, values]
          rfl

theorem Param.toList_text (p : Param) :
    p.text.toList = p.type.text.toList ++ ' ' :: p.name.toList := by
  simp [text]

theorem Param.legible_text :
    Legible (fun p => IsIdentifier p.name) (fun p => p.text.toList) (Param.map .unplaced)
      (Stops isWordChar) := by
  constructor
  intro p p' rest rest' isName isName' stops stops' same
  simp only [toList_text, List.append_assoc, List.cons_append] at same
  obtain ⟨types, behind⟩ := word_cancel p.type.isWord_text p'.type.isWord_text
    (stops_cons (by decide) _) (stops_cons (by decide) _) same
  obtain ⟨names, rests⟩ :=
    word_cancel isName.isWord isName'.isWord stops stops' (List.cons.inj behind).2
  refine ⟨?_, rests⟩
  rw [Param.map, Param.map, TypeName.text_injective types, names]
  rfl

/-! ### Lists with commas -/

/-- The texts of a list, with a comma and a blank between them. -/
def commaList {α : Type} (text : α → String) (as : List α) : List Char :=
  [',', ' '].intercalate (as.map fun a => (text a).toList)

theorem toList_intercalate_comma {α : Type} (text : α → String) (as : List α) :
    (", ".intercalate (as.map text)).toList = commaList text as := by
  rw [String.toList_intercalate, List.map_map]
  rfl

theorem legible_vars :
    Legible (fun vars : List VarDecl => ∀ v ∈ vars, v.WellNamed) (commaList VarDecl.text)
      (List.map (VarDecl.map .unplaced)) (fun rest => rest.head? = some ';') := by
  refine VarDecl.legible_text.intercalate .inr ?_ ?_
  · intro rest
    exact ⟨.inl rfl, by simp⟩
  · intro v named rest closed
    obtain ⟨c, more, name, starts⟩ := named.1.exists_cons
    rw [VarDecl.toList_text, name] at closed
    cases closed
    cases starts

theorem legible_params :
    Legible (fun params : List Param => ∀ p ∈ params, IsIdentifier p.name)
      (commaList Param.text) (List.map (Param.map .unplaced))
      (fun rest => rest.head? = some ')') := by
  refine Param.legible_text.intercalate ?_ ?_ ?_
  · intro rest closed c first
    cases closed.symm.trans first
    decide
  · intro rest
    exact ⟨stops_cons (by decide) _, by simp⟩
  · intro p _ rest closed
    rw [Param.toList_text] at closed
    cases type : p.type <;> simp [type, TypeName.text] at closed

/-! ### Statements -/

/-- The words with which no expression and no assignment starts. -/
def keywords : List String := ["int", "bool", "void", "return"]

theorem keywords_reserved : ∀ word ∈ keywords, word ∈ reservedWords := by decide

theorem Expr.text_not_keyword {e : Expr} (leaf : e.isLeaf = true)
    (named : e.WellNamed) : e.text ∉ keywords := by
  intro keyword
  have tagged : ∀ word ∈ keywords, tagOfWord word = "Variable" := by decide
  have asName := tagged e.text keyword
  rw [tagOfWord_text leaf named] at asName
  cases e with
  | binary left op right span => cases leaf
  | number | boolean => simp [tag] at asName
  | var name span =>
      have isName := named name (List.mem_singleton_self name)
      exact isName.unreserved (keywords_reserved name keyword)

namespace Stmt

/-- All names that are read or written are identifiers. -/
def WellNamed (s : Stmt) : Prop :=
  (∀ x ∈ s.reads, IsIdentifier x) ∧ ∀ x ∈ s.writes, IsIdentifier x

/-- The tag of a statement that starts with `word` and goes on with `behind`. -/
def tagFrom (word : String) (behind : List Char) : String :=
  if word ∈ TypeName.all.map TypeName.text then "Declaration"
  else if word = "return" then "ReturnStmt"
  else if behind.take 2 = [' ', '='] then "Assignment"
  else "ExprStmt"

/-- The tag of the statement at the start of a text. -/
def tagOf (text : List Char) : String :=
  tagFrom (String.ofList (text.takeWhile isWordChar)) (text.dropWhile isWordChar)

theorem tagOf_append {word : String} {behind : List Char} (first : isWord word = true)
    (stops : Stops isWordChar behind) : tagOf (word.toList ++ behind) = tagFrom word behind := by
  have all := List.all_eq_true.mp first
  rw [tagOf, takeWhile_run all stops, dropWhile_run all stops, String.ofList_toList]

/-- Behind a word that is no keyword, an equals sign makes the difference. -/
theorem tagFrom_of_not_keyword {word : String} (other : word ∉ keywords) (behind : List Char) :
    tagFrom word behind = if behind.take 2 = [' ', '='] then "Assignment" else "ExprStmt" := by
  have noType : word ∉ TypeName.all.map TypeName.text := by
    intro type
    have listed : ∀ text ∈ TypeName.all.map TypeName.text, text ∈ keywords := by decide
    exact other (listed word type)
  have noReturn : word ≠ "return" := by
    rintro rfl
    exact other (by decide)
  rw [tagFrom, if_neg noType, if_neg noReturn]

theorem toList_text_declaration (type : TypeName) (vars : List VarDecl) (span : Span) :
    (declaration type vars span).text.toList =
      type.text.toList ++ ' ' :: commaList VarDecl.text vars := by
  simp [text, ← toList_intercalate_comma]

theorem toList_text_assignment (target : String) (value : Expr) (span : Span) :
    (assignment target value span).text.toList =
      target.toList ++ ' ' :: '=' :: ' ' :: value.text.toList := by
  simp [text]

/-- The text of a return behind its keyword. -/
def returnedText : Option Expr → List Char
  | some value => ' ' :: value.text.toList
  | none => []

theorem toList_text_ret (value : Option Expr) (span : Span) :
    (ret value span).text.toList = "return".toList ++ returnedText value := by
  cases value <;> simp [text, returnedText]

theorem returnedText_stops (value : Option Expr) (rest : List Char) :
    Stops isWordChar (returnedText value ++ ';' :: rest) := by
  cases value <;> exact stops_cons (by decide) _

/-- The first word of a statement and what is behind it tell its form. -/
theorem tagOf_text {s : Stmt} (named : s.WellNamed) (rest : List Char) :
    tagOf (s.text.toList ++ ';' :: rest) = s.tag := by
  cases s with
  | declaration type vars span =>
      rw [toList_text_declaration, List.append_assoc, List.cons_append,
        tagOf_append type.isWord_text (stops_cons (by decide) _)]
      cases type <;> rfl
  | assignment target value span =>
      have isName : IsIdentifier target := named.2 target (List.mem_singleton_self target)
      have other : target ∉ keywords := fun keyword =>
        isName.unreserved (keywords_reserved target keyword)
      rw [toList_text_assignment, List.append_assoc, List.cons_append,
        tagOf_append isName.isWord (stops_cons (by decide) _), tagFrom_of_not_keyword other]
      rfl
  | ret value span =>
      rw [toList_text_ret, List.append_assoc,
        tagOf_append (by decide) (returnedText_stops value rest)]
      rfl
  | expr e span =>
      have named : e.WellNamed := named.1
      rw [text]
      cases leaf : e.isLeaf with
      | true =>
          rw [tagOf_append (e.isWord_text leaf named) (stops_cons (by decide) _),
            tagFrom_of_not_keyword (e.text_not_keyword leaf named)]
          rfl
      | false =>
          -- In front of a parenthesis there is no word at all.
          cases e with
          | number | boolean | var => cases leaf
          | binary left op right span =>
              have noWord (behind : List Char) : behind = "".toList ++ behind := rfl
              rw [Expr.toList_text_binary, List.cons_append, noWord ('(' :: _),
                tagOf_append rfl (stops_cons (by decide) _)]
              rfl

theorem named_vars {type : TypeName} {vars : List VarDecl} {span : Span}
    (named : (declaration type vars span).WellNamed) : ∀ v ∈ vars, v.WellNamed := by
  intro v mem
  constructor
  · exact named.2 v.name (List.mem_map_of_mem mem)
  · intro x read
    exact named.1 x (List.mem_flatMap_of_mem mem read)

/-- A statement can be read off a text, up to its semicolon. -/
theorem legible_text :
    Legible WellNamed (fun s => s.text.toList) (Stmt.map .unplaced)
      (fun rest => rest.head? = some ';') := by
  constructor
  intro s s' rest rest' named named' ends ends' same
  have tags : s.tag = s'.tag := by
    obtain ⟨more, rfl⟩ := List.head?_eq_some_iff.mp ends
    obtain ⟨more', rfl⟩ := List.head?_eq_some_iff.mp ends'
    rw [← tagOf_text named more, ← tagOf_text named' more', same]
  have stops := EndsVar.stops (.inr ends)
  have stops' := EndsVar.stops (.inr ends')
  cases s <;> cases s' <;> simp only [tag, String.reduceEq] at tags
  case declaration.declaration type vars span type' vars' span' =>
    simp only [toList_text_declaration, List.append_assoc, List.cons_append] at same
    obtain ⟨types, behind⟩ := word_cancel type.isWord_text type'.isWord_text
      (stops_cons (by decide) _) (stops_cons (by decide) _) same
    obtain ⟨groups, rests⟩ := legible_vars.cancel (named_vars named) (named_vars named') ends ends'
      (List.cons.inj behind).2
    refine ⟨?_, rests⟩
    rw [Stmt.map, Stmt.map, TypeName.text_injective types, groups]
    rfl
  case assignment.assignment target value span target' value' span' =>
    have isName : IsIdentifier target := named.2 target (List.mem_singleton_self target)
    have isName' : IsIdentifier target' := named'.2 target' (List.mem_singleton_self target')
    simp only [toList_text_assignment, List.append_assoc, List.cons_append] at same
    obtain ⟨targets, behind⟩ := word_cancel isName.isWord isName'.isWord
      (stops_cons (by decide) _) (stops_cons (by decide) _) same
    simp only [List.cons.injEq, true_and] at behind
    obtain ⟨values, rests⟩ := Expr.legible_text.cancel named.1 named'.1 stops stops' behind
    refine ⟨?_, rests⟩
    rw [Stmt.map, Stmt.map, targets, values]
    rfl
  case ret.ret value span value' span' =>
    rw [toList_text_ret, toList_text_ret, List.append_assoc, List.append_assoc,
      List.append_cancel_left_eq] at same
    cases value <;> cases value' <;>
      simp only [returnedText, List.nil_append, List.cons_append] at same
    case none.none => exact ⟨rfl, same⟩
    case none.some value' => simp [same] at ends
    case some.none value => simp [← same] at ends'
    case some.some value value' =>
      obtain ⟨values, rests⟩ :=
        Expr.legible_text.cancel named.1 named'.1 stops stops' (List.cons.inj same).2
      refine ⟨?_, rests⟩
      rw [Stmt.map, Stmt.map, Option.map_some, Option.map_some, values]
      rfl
  case expr.expr e span e' span' =>
    obtain ⟨values, rests⟩ := Expr.legible_text.cancel named.1 named'.1 stops stops' same
    refine ⟨?_, rests⟩
    rw [Stmt.map, Stmt.map, values]
    rfl

/-- A statement as it stands in a body. -/
def inBody (s : Stmt) : List Char := ' ' :: (s.text.toList ++ [';'])

/-- The statements of a body can be read off, up to the blank and the brace that
close it. -/
theorem legible_body :
    Legible (fun body : List Stmt => ∀ s ∈ body, s.WellNamed) (List.flatMap inBody)
      (List.map (Stmt.map .unplaced)) (fun rest => rest = [' ', '\x7d']) := by
  have one : Legible WellNamed inBody (Stmt.map .unplaced) (fun _ => True) := by
    constructor
    intro s s' rest rest' named named' _ _ same
    simp only [inBody, List.cons_append, List.append_assoc, List.nil_append, List.cons.injEq,
      true_and] at same
    obtain ⟨stmts, rests⟩ := legible_text.cancel named named' rfl rfl same
    exact ⟨stmts, (List.cons.inj rests).2⟩
  refine one.flatMap (fun _ => trivial) ?_
  intro s _ rest
  refine ⟨trivial, ?_⟩
  intro closed
  have semicolon : ';' ∈ s.inBody ++ rest := by simp [inBody]
  rw [closed] at semicolon
  revert semicolon
  decide

end Stmt

/-! ### Spans are not shown -/

theorem Expr.text_unplaced (e : Expr) : (e.map .unplaced).text = e.text := by
  induction e with
  | binary left op right span ihLeft ihRight =>
      rw [Expr.map, Expr.text, Expr.text, ihLeft, ihRight]
      rfl
  | number | boolean | var => rfl

theorem VarDecl.text_unplaced (v : VarDecl) : (v.map .unplaced).text = v.text := by
  unfold text map
  cases v.init <;> simp [Expr.text_unplaced]

theorem Stmt.text_unplaced (s : Stmt) : (s.map .unplaced).text = s.text := by
  cases s with
  | declaration type vars span => simp [map, text, VarDecl.text_unplaced, Function.comp_def]
  | assignment target value span => simp [map, text, Expr.text_unplaced]
  | ret value span => cases value <;> simp [map, text, Expr.text_unplaced]
  | expr e span => simp [map, text, Expr.text_unplaced]

theorem Param.text_unplaced (p : Param) : (p.map .unplaced).text = p.text := rfl

/-! ### Programs -/

namespace Program

theorem text_withoutSpans (p : Program) : p.withoutSpans.text = p.text := by
  simp [withoutSpans, map, FunctionDef.map, text, FunctionDef.text, Stmt.text_unplaced,
    Param.text_unplaced, Function.comp_def]

theorem toList_text (p : Program) :
    p.text.toList =
      p.function.returnType.text.toList ++ ' ' :: (p.function.name.toList ++ '(' ::
        (commaList Param.text p.function.params ++ ')' :: ' ' :: '\x7b' ::
          (p.function.body.flatMap Stmt.inBody ++ [' ', '\x7d']))) := by
  have body : Stmt.inBody = fun s => ' ' :: (s.text.toList ++ [';']) := rfl
  simp [text, FunctionDef.text, ← toList_intercalate_comma, String.toList_join, List.flatMap_map,
    body]

theorem withoutSpans_eq_of_text_eq {p q : Program} (named : ∀ x ∈ p.names, IsIdentifier x)
    (named' : ∀ x ∈ q.names, IsIdentifier x) (same : p.text = q.text) :
    p.withoutSpans = q.withoutSpans := by
  simp only [names, List.forall_mem_cons, List.forall_mem_append, List.forall_mem_map,
    List.forall_mem_flatMap] at named named'
  obtain ⟨isName, params, body⟩ := named
  obtain ⟨isName', params', body'⟩ := named'
  rw [← String.toList_inj, toList_text, toList_text] at same
  obtain ⟨types, behindType⟩ := word_cancel p.function.returnType.isWord_text
    q.function.returnType.isWord_text (stops_cons (by decide) _) (stops_cons (by decide) _) same
  obtain ⟨names, behindName⟩ := word_cancel isName.isWord isName'.isWord
    (stops_cons (by decide) _) (stops_cons (by decide) _) (List.cons.inj behindType).2
  obtain ⟨paramLists, behindParams⟩ :=
    legible_params.cancel params params' rfl rfl (List.cons.inj behindName).2
  simp only [List.cons.injEq, true_and] at behindParams
  obtain ⟨bodies, -⟩ := Stmt.legible_body.cancel body body' rfl rfl behindParams
  rw [withoutSpans, withoutSpans, map, map, FunctionDef.map, FunctionDef.map,
    TypeName.text_injective types, names, paramLists, bodies]
  rfl

/-- **The text of a program is unambiguous.** Two programs all of whose names
are identifiers have the same text exactly if they are equal once all spans are
ignored. -/
theorem text_eq_iff {p q : Program} (named : ∀ x ∈ p.names, IsIdentifier x)
    (named' : ∀ x ∈ q.names, IsIdentifier x) :
    p.text = q.text ↔ p.withoutSpans = q.withoutSpans := by
  constructor
  · exact withoutSpans_eq_of_text_eq named named'
  · intro same
    rw [← text_withoutSpans p, same, text_withoutSpans]

/-- A program with an empty group, a negative literal behind a minus, and a
return without a value, whose first statement stands on a given line. -/
def compact (line : Int32) : Program where
  function :=
    { returnType := .void
      name := "f"
      params := [{ type := .int, name := "_a1" }, { type := .bool, name := "été" }]
      body :=
        [.declaration .int [] (.point ⟨line, 3⟩),
          .declaration .int
            [{ name := "x" },
              { name := "inty"
                init := some (.binary (.var "_a1" .unknown) .minus
                  (.binary (.number (-5) .unknown) .times (.var "trueish" .unknown) .unknown)
                  .unknown) }] .unknown,
          .assignment "x" (.boolean true .unknown) .unknown,
          .expr (.var "returned" .unknown) .unknown,
          .ret none .unknown] }

theorem text_eq_iff_compact :
    (∀ x ∈ (compact 1).names, IsIdentifier x) ∧ (∀ x ∈ (compact 2).names, IsIdentifier x) ∧
      compact 1 ≠ compact 2 ∧ (compact 1).text = (compact 2).text ∧
      (compact 1).withoutSpans = (compact 2).withoutSpans := by
  have named : ∀ x ∈ (compact 1).names, IsIdentifier x := by decide
  have named' : ∀ x ∈ (compact 2).names, IsIdentifier x := by decide
  have same : (compact 1).text = (compact 2).text := rfl
  exact ⟨named, named', by decide, same, (text_eq_iff named named').mp same⟩

-- A variable whose name is a reserved word can be taken for something else.
example : (Stmt.expr (.var "return" .unknown) .unknown).text = (Stmt.ret none .unknown).text := rfl

end Program

end Scopewise
