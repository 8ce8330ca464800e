/-
Other spellings of a program tree.

A value can be written in more than one way without a change of meaning: the keys
of an object may come in any order, and an object that stands for a part of a
program may have further keys, which nobody asks for. `Json.Respells role v w`
says that `w` is such a spelling of `v`. It goes down through the whole value, and
`role` tells what the value stands for in a program, since this decides which keys
are its own; for a node that depends on its kind.

Decoding does not tell two spellings apart (`Program.ofValue_respelled`). By the
grammar it looks at an object only through what stands at the fields, and these
are related again (`Json.Part`). So every relation of the grammar is carried over
from one spelling to the other (`Grammar.Insensitive`).
-/

import Scopewise.Proofs.Acceptance

namespace Scopewise

namespace Json

/-! ### Roles -/

/-- What a value stands for in a program tree. -/
inductive Role where
  | program
  | function
  | param
  | stmt
  | varDecl
  | expr
  | span
  | position
  | list (item : Role)
  /-- A literal or a name, or nothing that belongs to the tree. -/
  | other

namespace Role

/-- The kinds of statement in order, with the roles of their fields. -/
def stmtKinds : List (String × List (String × Role)) :=
  [("Declaration", [("type", .other), ("vars", .list .varDecl)]),
    ("Assignment", [("target", .other), ("value", .expr)]),
    ("ReturnStmt", [("value", .expr)]),
    ("ExprStmt", [("expr", .expr)])]

/-- The kinds of expression in order, with the roles of their fields. -/
def exprKinds : List (String × List (String × Role)) :=
  [("BinaryOp", [("left", .expr), ("op", .other), ("right", .expr)]),
    ("Number", [("value", .other)]),
    ("Boolean", [("value", .other)]),
    ("Variable", [("name", .other)])]

/-- The fields of the kind that a node names or numbers. -/
def kindFields (kinds : List (String × List (String × Role))) (entries : List (String × Json)) :
    List (String × Role) :=
  match entries.lookup "node" with
  | some (.str kind) => (kinds.lookup kind).getD []
  | some (.int (.ofNat index)) => (kinds[index]?.map Prod.snd).getD []
  | _ => []

/-- The fields of an object with the given entries, in order. -/
def fields (entries : List (String × Json)) : Role → List (String × Role)
  | .program => [("function", .function), ("span", .span)]
  | .function =>
      [("return_type", .other), ("name", .other), ("params", .list .param), ("body", .list .stmt),
        ("span", .span)]
  | .param => [("type", .other), ("name", .other), ("span", .span)]
  | .varDecl => [("name", .other), ("init", .expr), ("span", .span)]
  | .span => [("start", .position), ("end", .position)]
  | .position => [("line", .other), ("column", .other)]
  | .stmt => ("node", .other) :: ("span", .span) :: kindFields stmtKinds entries
  | .expr => ("node", .other) :: ("span", .span) :: kindFields exprKinds entries
  | .list _ | .other => []

/-- The role of what stands under a key. -/
def field (role : Role) (entries : List (String × Json)) (key : String) : Role :=
  ((role.fields entries).lookup key).getD .other

/-- The role of an item of a list: its items are of one kind, or they are the
fields of a record in order. -/
def item : Role → Nat → Role
  | .list role, _ => role
  | role, i => ((role.fields [])[i]?.map Prod.snd).getD .other

/-- An object with this role may have keys that are no fields. -/
def takesMore : Role → Bool
  | .list _ | .other => false
  | _ => true

end Role

/-! ### Spellings -/

mutual

/-- `w` is another spelling of `v`, which has the given role. -/
inductive Respells : Role → (v w : Json) → Prop where
  | same (role : Role) (v : Json) : Respells role v v
  | arr {role : Role} {items items' : List Json} :
      RespellsItems role.item items items' → Respells role (.arr items) (.arr items')
  /-- The values are spelled in another way, further entries are added, and then
  the entries are put in another order. -/
  | obj {role : Role} {entries renewed further entries' : List (String × Json)} :
      RespellsEntries (role.field entries) entries renewed →
      (∀ e ∈ further, role.takesMore = true ∧ e.1 ∉ (role.fields entries).map Prod.fst) →
      entries'.Perm (renewed ++ further) → Respells role (.obj entries) (.obj entries')

/-- Item by item. -/
inductive RespellsItems : (Nat → Role) → (items items' : List Json) → Prop where
  | nil {role : Nat → Role} : RespellsItems role [] []
  | cons {role : Nat → Role} {v w : Json} {items items' : List Json} :
      Respells (role 0) v w → RespellsItems (fun i => role (i + 1)) items items' →
      RespellsItems role (v :: items) (w :: items')

/-- Entry by entry, under the same keys. -/
inductive RespellsEntries : (String → Role) → (entries entries' : List (String × Json)) → Prop where
  | nil {role : String → Role} : RespellsEntries role [] []
  | cons {role : String → Role} {key : String} {v w : Json}
      {entries entries' : List (String × Json)} : Respells (role key) v w →
      RespellsEntries role entries entries' →
      RespellsEntries role ((key, v) :: entries) ((key, w) :: entries')

end

theorem RespellsItems.length_eq {role : Nat → Role} {items items' : List Json}
    (respells : RespellsItems role items items') : items'.length = items.length := by
  induction items generalizing role items' with
  | nil =>
      cases respells
      rfl
  | cons v items ih =>
      cases respells with
      | cons _ rest => rw [List.length_cons, List.length_cons, ih rest]

theorem RespellsItems.getElem? {role : Nat → Role} {items items' : List Json}
    (respells : RespellsItems role items items') {i : Nat} {v : Json} (found : items[i]? = some v) :
    ∃ w, items'[i]? = some w ∧ v.Respells (role i) w := by
  induction items generalizing role items' i with
  | nil => simp at found
  | cons u items ih =>
      cases respells with
      | cons first rest =>
          cases i with
          | zero =>
              cases found
              exact ⟨_, rfl, first⟩
          | succ i => exact ih rest found

theorem RespellsEntries.keys_eq {role : String → Role} {entries entries' : List (String × Json)}
    (respells : RespellsEntries role entries entries') :
    entries'.map Prod.fst = entries.map Prod.fst := by
  induction entries generalizing entries' with
  | nil =>
      cases respells
      rfl
  | cons e entries ih =>
      cases respells with
      | cons _ rest => rw [List.map_cons, List.map_cons, ih rest]

theorem RespellsEntries.mem {role : String → Role} {entries entries' : List (String × Json)}
    (respells : RespellsEntries role entries entries') {key : String} {v : Json}
    (mem : (key, v) ∈ entries) : ∃ w, (key, w) ∈ entries' ∧ v.Respells (role key) w := by
  induction entries generalizing entries' with
  | nil => cases mem
  | cons e entries ih =>
      cases respells with
      | cons first rest =>
          rcases List.mem_cons.mp mem with same | mem
          · cases same
            exact ⟨_, List.mem_cons_self .., first⟩
          · obtain ⟨w, mem, respells⟩ := ih rest mem
            exact ⟨w, List.mem_cons_of_mem _ mem, respells⟩

/-! ### Parts of two spellings -/

/-- What stands at the same place of two spellings. -/
inductive Part (role : Role) : Option Json → Option Json → Prop where
  | absent : Part role none none
  | present {v w : Json} : w.Distinct → v.Respells role w → Part role (some v) (some w)

section Parts

variable {role : Role}

theorem Part.refl {part : Option Json} (distinct : ∀ v ∈ part, v.Distinct) :
    Part role part part := by
  cases part with
  | none => exact .absent
  | some v => exact .present (distinct v rfl) (.same role v)

/-- Another spelling of an object has the same parts at its fields. -/
theorem Respells.parts_of_obj {entries : List (String × Json)} {w : Json}
    (respells : (Json.obj entries).Respells role w) (distinct : w.Distinct) :
    ∃ entries', w = .obj entries' ∧ ∀ key r, (role.fields entries).lookup key = some r →
      Part r (entries.lookup key) (entries'.lookup key) := by
  cases respells with
  | same =>
      refine ⟨entries, rfl, fun key r _ => .refl fun v found => ?_⟩
      exact (distinct_obj.mp distinct).2 (key, v) (Fields.mem_of_lookup found)
  | @obj _ _ renewed further entries' renew admitted order =>
      refine ⟨entries', rfl, ?_⟩
      intro key r isField
      obtain ⟨keys, values⟩ := distinct_obj.mp distinct
      cases found : entries.lookup key with
      | some v =>
          obtain ⟨w, mem, respells⟩ := renew.mem (Fields.mem_of_lookup found)
          have mem' : (key, w) ∈ entries' := order.mem_iff.mpr (List.mem_append_left _ mem)
          rw [(Fields.lookup_eq_some_iff_mem keys).mpr mem']
          rw [Role.field, isField, Option.getD_some] at respells
          exact .present (values _ mem') respells
      | none =>
          -- The keys of the other spelling are old ones or no fields.
          have absent : entries'.lookup key = none := by
            rw [List.lookup_eq_none_iff] at found ⊢
            intro e mem
            rcases List.mem_append.mp (order.mem_iff.mp mem) with mem | mem
            · have old : e.1 ∈ entries.map Prod.fst :=
                renew.keys_eq ▸ List.mem_map_of_mem mem
              obtain ⟨e', mem', same⟩ := List.mem_map.mp old
              rw [← same]
              exact found e' mem'
            · have field := List.mem_map_of_mem (f := Prod.fst) (Fields.mem_of_lookup isField)
              rw [bne_iff_ne]
              rintro rfl
              exact (admitted e mem).2 field
          rw [absent]
          exact .absent

/-- Another spelling of a list has the same parts as its items. -/
theorem Respells.parts_of_arr {items : List Json} {w : Json}
    (respells : (Json.arr items).Respells role w) (distinct : w.Distinct) :
    ∃ items', w = .arr items' ∧ items'.length = items.length ∧
      ∀ i, Part (role.item i) items[i]? items'[i]? := by
  cases respells with
  | same =>
      refine ⟨items, rfl, rfl, fun i => .refl fun v found => ?_⟩
      exact distinct_arr.mp distinct v (List.mem_of_getElem? found)
  | @arr _ _ items' renew =>
      refine ⟨items', rfl, renew.length_eq, ?_⟩
      intro i
      cases found : items[i]? with
      | some v =>
          obtain ⟨w, found', respells⟩ := renew.getElem? found
          rw [found']
          exact .present (distinct_arr.mp distinct w (List.mem_of_getElem? found')) respells
      | none =>
          rw [List.getElem?_eq_none_iff, ← renew.length_eq, ← List.getElem?_eq_none_iff] at found
          rw [found]
          exact .absent

/-- A part that is there is there in the other spelling as well. -/
theorem Part.of_some {v : Json} {part : Option Json} (same : Part role (some v) part) :
    ∃ w, part = some w ∧ v.Respells role w ∧ w.Distinct := by
  cases same with
  | present distinct respells => exact ⟨_, rfl, respells, distinct⟩

end Parts

theorem Respells.eq_of_nesting_eq_zero {role : Role} {v w : Json} (respells : v.Respells role w)
    (flat : v.nesting = 0) : w = v := by
  cases respells with
  | same => rfl
  | arr | obj => simp [nesting] at flat

theorem RespellsEntries.refl (role : String → Role) (entries : List (String × Json)) :
    RespellsEntries role entries entries := by
  induction entries with
  | nil => exact .nil
  | cons e entries ih => exact .cons (.same _ _) ih

/-- To an object that stands for no part of a program nothing is added. -/
theorem Respells.bare {entries : List (String × Json)} {w : Json}
    (respells : (Json.obj entries).Respells .other w) :
    ∃ entries' renewed, w = .obj entries' ∧ entries'.Perm renewed ∧
      RespellsEntries (fun _ => .other) entries renewed := by
  cases respells with
  | same => exact ⟨entries, entries, rfl, .refl _, .refl _ _⟩
  | @obj _ _ renewed further entries' renew admitted order =>
      have nothing : further = [] :=
        List.eq_nil_iff_forall_not_mem.mpr fun e mem => nomatch (admitted e mem).1
      rw [nothing, List.append_nil] at order
      exact ⟨entries', renewed, rfl, order, renew⟩

/-! ### Records and nodes -/

theorem getElem?_idxOf_of_lookup {fields : List (String × Role)} {key : String} {r : Role}
    (isField : fields.lookup key = some r) :
    fields[(fields.map Prod.fst).idxOf key]? = some (key, r) := by
  induction fields with
  | nil => simp at isField
  | cons e fields ih =>
      obtain ⟨name, r'⟩ := e
      by_cases same : key = name
      · subst same
        simpa using isField
      · have other : (key == name) = false := beq_eq_false_iff_ne.mpr same
        rw [List.lookup_cons, other] at isField
        simpa [List.idxOf_cons_ne _ (Ne.symm same)] using ih isField

/-- Another spelling of a record, keyed or listed, is a record with the same parts. -/
theorem Respells.record {role : Role} {v w : Json} {slot : String → Option Json}
    (respells : v.Respells role w) (distinct : w.Distinct)
    (fixed : ∀ entries, role.fields entries = role.fields [])
    (ordered : ∀ i, role.item i = ((role.fields [])[i]?.map Prod.snd).getD .other)
    (isRecord : v.Record ((role.fields []).map Prod.fst) slot) :
    ∃ slot', w.Record ((role.fields []).map Prod.fst) slot' ∧
      ∀ key r, (role.fields []).lookup key = some r → Part r (slot key) (slot' key) := by
  cases isRecord with
  | keyed entries =>
      obtain ⟨entries', rfl, parts⟩ := respells.parts_of_obj distinct
      rw [fixed entries] at parts
      exact ⟨_, .keyed entries', parts⟩
  | @listed items short =>
      obtain ⟨items', rfl, size, parts⟩ := respells.parts_of_arr distinct
      refine ⟨_, .listed (size ▸ short), ?_⟩
      intro key r isField
      -- A field stands at the place of its name.
      have part := parts (((role.fields []).map Prod.fst).idxOf key)
      rw [ordered, getElem?_idxOf_of_lookup isField] at part
      exact part

end Json

namespace Grammar

open Json

variable {α : Type}

theorem HasKind.kindFields_eq {kinds : List (String × List (String × Role))} {kind : String}
    {index : Nat} {entries : List (String × Json)} {fields : List (String × Role)}
    (hasKind : HasKind kind index entries) (named : kinds.lookup kind = some fields)
    (numbered : kinds[index]? = some (kind, fields)) : Role.kindFields kinds entries = fields := by
  rcases hasKind with found | found
  · simp [Role.kindFields, found, named]
  · have found : entries.lookup "node" = some (.int (.ofNat index)) := found
    simp [Role.kindFields, found, numbered]

/-- Another spelling of a node is a node of the same kind with the same parts. -/
theorem HasKind.respelled {role : Role} {kind : String} {index : Nat}
    {entries : List (String × Json)} {fields : List (String × Role)} {w : Json}
    (hasKind : HasKind kind index entries) (kinds : List (String × List (String × Role)))
    (respells : (Json.obj entries).Respells role w) (distinct : w.Distinct)
    (isNode : role.fields entries =
      ("node", .other) :: ("span", .span) :: Role.kindFields kinds entries)
    (named : kinds.lookup kind = some fields) (numbered : kinds[index]? = some (kind, fields)) :
    ∃ entries', w = .obj entries' ∧ HasKind kind index entries' ∧
      ∀ key r, (("node", .other) :: ("span", .span) :: fields).lookup key = some r →
        Part r (entries.lookup key) (entries'.lookup key) := by
  obtain ⟨entries', rfl, parts⟩ := respells.parts_of_obj distinct
  rw [isNode, hasKind.kindFields_eq named numbered] at parts
  refine ⟨entries', rfl, ?_, parts⟩
  have part := parts "node" .other rfl
  rcases hasKind with found | found
  · rw [found] at part
    obtain ⟨_, found', ⟨⟩, -⟩ := part.of_some
    exact .inl found'
  · rw [found] at part
    obtain ⟨_, found', ⟨⟩, -⟩ := part.of_some
    exact .inr found'

/-! ### Grammar -/

/-- The relation is carried over to other spellings. -/
def Insensitive (role : Role) (IsA : Json → α → Prop) : Prop :=
  ∀ ⦃v a⦄, IsA v a → ∀ ⦃w⦄, v.Respells role w → w.Distinct → IsA w a

section Parts

variable {role : Role} {IsA : Json → α → Prop} {part part' : Option Json} {a default : α}

theorem Needs.respelled (needs : Needs IsA part a) (insensitive : Insensitive role IsA)
    (same : Part role part part') : Needs IsA part' a := by
  obtain ⟨isA⟩ := needs
  obtain ⟨w, rfl, respells, distinct⟩ := same.of_some
  exact .present (insensitive isA respells distinct)

theorem Allows.respelled (allows : Allows IsA default part a) (insensitive : Insensitive role IsA)
    (same : Part role part part') : Allows IsA default part' a := by
  cases same with
  | absent => exact allows
  | present distinct respells =>
      rw [allows_some] at allows ⊢
      exact insensitive allows respells distinct

end Parts

section Scalars

variable {role : Role}

/-- A scalar is spelled in one way only. -/
theorem insensitive_scalar {scalar : α → Json} (flat : ∀ a, (scalar a).nesting = 0) :
    Insensitive role fun v a => v = scalar a := by
  rintro _ a rfl w respells -
  exact respells.eq_of_nesting_eq_zero (flat a)

theorem insensitive_string : Insensitive role IsString := insensitive_scalar fun _ => rfl

theorem insensitive_bool : Insensitive role IsBool := insensitive_scalar fun _ => rfl

theorem insensitive_int64 : Insensitive role IsInt64 := insensitive_scalar fun _ => rfl

theorem insensitive_int32 : Insensitive role IsInt32 := insensitive_scalar fun _ => rfl

end Scalars

theorem insensitive_list {role : Role} {IsA : Json → α → Prop}
    (insensitive : Insensitive role IsA) : Insensitive (.list role) (IsList IsA) := by
  rintro _ as ⟨items, rfl, each⟩ w respells distinct
  obtain ⟨items', rfl, size, parts⟩ := respells.parts_of_arr distinct
  rw [List.forall₂_iff_get] at each
  obtain ⟨length_eq, each⟩ := each
  refine ⟨items', rfl, List.forall₂_iff_get.mpr ⟨size.trans length_eq, ?_⟩⟩
  intro i inItems' inAs
  have inItems : i < items.length := size ▸ inItems'
  have part := parts i
  rw [List.getElem?_eq_getElem inItems, List.getElem?_eq_getElem inItems'] at part
  cases part with
  | present distinct respells => exact insensitive (each i inItems inAs) respells distinct

theorem insensitive_nullable {role : Role} {IsA : Json → α → Prop}
    (insensitive : Insensitive role IsA) : Insensitive role (IsNullable IsA) := by
  rintro v a (_ | isA) w respells distinct
  · cases respells
    exact .absent
  · exact .present (insensitive isA respells distinct)

/-! ### Names -/

/-- Nothing behind a name, in every spelling of it. -/
def BlankInsensitive (Blank : Json → Prop) : Prop :=
  ∀ ⦃v⦄, Blank v → ∀ ⦃w⦄, v.Respells .other w → Blank w

theorem blankInsensitive_isNull : BlankInsensitive IsNull := by
  rintro _ rfl w ⟨⟩
  rfl

theorem blankInsensitive_isBlank : BlankInsensitive IsBlank := by
  rintro _ (rfl | rfl) w respells
  · cases respells
    exact .inl rfl
  · obtain ⟨entries', _, rfl, order, ⟨⟩⟩ := respells.bare
    rw [order.eq_nil]
    exact .inr rfl

theorem insensitive_name {Spells : String → α → Prop} {Blank : Json → Prop}
    (blank : BlankInsensitive Blank) : Insensitive .other (IsName Spells Blank) := by
  rintro v a (spells | ⟨spells, isBlank⟩) w respells -
  · cases respells
    exact .alone spells
  · obtain ⟨entries', renewed, rfl, order, renew⟩ := respells.bare
    cases renew with
    | cons respells rest =>
        cases rest
        rw [order.eq_singleton]
        exact .keyed spells (blank isBlank respells)

/-! ### Places -/

theorem insensitive_position : Insensitive .position IsPosition := by
  rintro v p ⟨slot, isRecord, line, column⟩ w respells distinct
  obtain ⟨slot', isRecord', parts⟩ :=
    respells.record distinct (fun _ => rfl) (fun _ => rfl) isRecord
  exact ⟨slot', isRecord', line.respelled insensitive_int32 (parts "line" .other rfl),
    column.respelled insensitive_int32 (parts "column" .other rfl)⟩

theorem insensitive_span : Insensitive .span IsSpan := by
  rintro v s ⟨slot, isRecord, start, stop⟩ w respells distinct
  obtain ⟨slot', isRecord', parts⟩ :=
    respells.record distinct (fun _ => rfl) (fun _ => rfl) isRecord
  exact ⟨slot', isRecord', start.respelled insensitive_position (parts "start" .position rfl),
    stop.respelled insensitive_position (parts "end" .position rfl)⟩

theorem SpanPart.respelled {part part' : Option Json} {span : Span} (isSpan : SpanPart part span)
    (same : Part .span part part') : SpanPart part' span :=
  Allows.respelled isSpan insensitive_span same

/-! ### Nodes -/

section Nodes

variable {Blank : Json → Prop} (blank : BlankInsensitive Blank)
include blank

theorem insensitive_expr : Insensitive .expr (IsExpr Blank) := by
  intro v e isExpr
  induction isExpr with
  | @binary entries l r left right op span hasKind isLeft _ isOp isRight _ isSpan ihl ihr =>
      intro w respells distinct
      -- The kind settles the fields: `parts` knows what is a field of an operation.
      obtain ⟨entries', rfl, hasKind', parts⟩ :=
        hasKind.respelled Role.exprKinds respells distinct rfl rfl rfl
      have leftPart := parts "left" .expr rfl
      have rightPart := parts "right" .expr rfl
      rw [isLeft] at leftPart
      rw [isRight] at rightPart
      obtain ⟨l', isLeft', respells, distinct⟩ := leftPart.of_some
      obtain ⟨r', isRight', respells', distinct'⟩ := rightPart.of_some
      exact .binary hasKind' isLeft' (ihl respells distinct)
        (isOp.respelled (insensitive_name blank) (parts "op" .other rfl))
        isRight' (ihr respells' distinct') (isSpan.respelled (parts "span" .span rfl))
  | number hasKind value isSpan =>
      intro w respells distinct
      obtain ⟨entries', rfl, hasKind', parts⟩ :=
        hasKind.respelled Role.exprKinds respells distinct rfl rfl rfl
      exact .number hasKind' (value.respelled insensitive_int64 (parts "value" .other rfl))
        (isSpan.respelled (parts "span" .span rfl))
  | boolean hasKind value isSpan =>
      intro w respells distinct
      obtain ⟨entries', rfl, hasKind', parts⟩ :=
        hasKind.respelled Role.exprKinds respells distinct rfl rfl rfl
      exact .boolean hasKind' (value.respelled insensitive_bool (parts "value" .other rfl))
        (isSpan.respelled (parts "span" .span rfl))
  | var hasKind name isSpan =>
      intro w respells distinct
      obtain ⟨entries', rfl, hasKind', parts⟩ :=
        hasKind.respelled Role.exprKinds respells distinct rfl rfl rfl
      exact .var hasKind' (name.respelled insensitive_string (parts "name" .other rfl))
        (isSpan.respelled (parts "span" .span rfl))

theorem insensitive_varDecl : Insensitive .varDecl (IsVarDecl Blank) := by
  rintro v d ⟨slot, isRecord, name, init, isSpan⟩ w respells distinct
  obtain ⟨slot', isRecord', parts⟩ :=
    respells.record distinct (fun _ => rfl) (fun _ => rfl) isRecord
  exact ⟨slot', isRecord', name.respelled insensitive_string (parts "name" .other rfl),
    init.respelled (insensitive_nullable (insensitive_expr blank)) (parts "init" .expr rfl),
    isSpan.respelled (parts "span" .span rfl)⟩

theorem insensitive_stmt : Insensitive .stmt (IsStmt Blank) := by
  intro v s isStmt w respells distinct
  cases isStmt with
  | declaration hasKind type vars isSpan =>
      obtain ⟨entries', rfl, hasKind', parts⟩ :=
        hasKind.respelled Role.stmtKinds respells distinct rfl rfl rfl
      exact .declaration hasKind'
        (type.respelled (insensitive_name blank) (parts "type" .other rfl))
        (vars.respelled (insensitive_list (insensitive_varDecl blank)) (parts "vars" _ rfl))
        (isSpan.respelled (parts "span" .span rfl))
  | assignment hasKind target value isSpan =>
      obtain ⟨entries', rfl, hasKind', parts⟩ :=
        hasKind.respelled Role.stmtKinds respells distinct rfl rfl rfl
      exact .assignment hasKind' (target.respelled insensitive_string (parts "target" .other rfl))
        (value.respelled (insensitive_expr blank) (parts "value" .expr rfl))
        (isSpan.respelled (parts "span" .span rfl))
  | ret hasKind value isSpan =>
      obtain ⟨entries', rfl, hasKind', parts⟩ :=
        hasKind.respelled Role.stmtKinds respells distinct rfl rfl rfl
      exact .ret hasKind'
        (value.respelled (insensitive_nullable (insensitive_expr blank)) (parts "value" .expr rfl))
        (isSpan.respelled (parts "span" .span rfl))
  | expr hasKind value isSpan =>
      obtain ⟨entries', rfl, hasKind', parts⟩ :=
        hasKind.respelled Role.stmtKinds respells distinct rfl rfl rfl
      exact .expr hasKind' (value.respelled (insensitive_expr blank) (parts "expr" .expr rfl))
        (isSpan.respelled (parts "span" .span rfl))

end Nodes

/-! ### Programs -/

theorem insensitive_param : Insensitive .param IsParam := by
  rintro v p ⟨slot, isRecord, type, name, isSpan⟩ w respells distinct
  obtain ⟨slot', isRecord', parts⟩ :=
    respells.record distinct (fun _ => rfl) (fun _ => rfl) isRecord
  exact ⟨slot', isRecord',
    type.respelled (insensitive_name blankInsensitive_isNull) (parts "type" .other rfl),
    name.respelled insensitive_string (parts "name" .other rfl),
    isSpan.respelled (parts "span" .span rfl)⟩

theorem insensitive_functionDef {Statement : Json → Stmt → Prop}
    (statement : Insensitive .stmt Statement) :
    Insensitive .function (IsFunctionDef Statement) := by
  rintro v f ⟨slot, isRecord, returnType, name, params, body, isSpan⟩ w respells distinct
  obtain ⟨slot', isRecord', parts⟩ :=
    respells.record distinct (fun _ => rfl) (fun _ => rfl) isRecord
  exact ⟨slot', isRecord',
    returnType.respelled (insensitive_name blankInsensitive_isNull)
      (parts "return_type" .other rfl),
    name.respelled insensitive_string (parts "name" .other rfl),
    params.respelled (insensitive_list insensitive_param) (parts "params" _ rfl),
    body.respelled (insensitive_list statement) (parts "body" _ rfl),
    isSpan.respelled (parts "span" .span rfl)⟩

theorem insensitive_program {Statement : Json → Stmt → Prop}
    (statement : Insensitive .stmt Statement) : Insensitive .program (IsProgram Statement) := by
  rintro v p ⟨slot, isRecord, function, isSpan⟩ w respells distinct
  obtain ⟨slot', isRecord', parts⟩ :=
    respells.record distinct (fun _ => rfl) (fun _ => rfl) isRecord
  exact ⟨slot', isRecord',
    function.respelled (insensitive_functionDef statement) (parts "function" .function rfl),
    isSpan.respelled (parts "span" .span rfl)⟩

end Grammar

/-! ### Decoding -/

/-- A value that holds a program holds the same program in every spelling. The
keys of all objects may be put in another order, and an object that stands for a
part of the program may have further keys with any values behind them. -/
theorem Program.ofValue_respelled {v w : Json} {p : Program} (distinct : v.Distinct)
    (decoded : Program.ofValue v = .ok p) (respells : v.Respells .program w)
    (distinct' : w.Distinct) : Program.ofValue w = .ok p := by
  have represents := (Program.ofValue_eq_ok_iff distinct p).mp decoded
  have insensitive : Grammar.Insensitive .program (Grammar.Represents Json.IsBlank) :=
    Grammar.insensitive_program (Grammar.insensitive_stmt Grammar.blankInsensitive_isBlank)
  exact (Program.ofValue_eq_ok_iff distinct' p).mpr (insensitive represents respells distinct')

/-- An object backwards, with one more entry. -/
theorem Json.Respells.backwards {role : Role} {entries : List (String × Json)} {key : String}
    {v : Json} (renewed : List (String × Json))
    (renew : RespellsEntries (role.field entries) entries renewed)
    (more : role.takesMore = true) (other : key ∉ (role.fields entries).map Prod.fst) :
    (Json.obj entries).Respells role (.obj ((key, v) :: renewed.reverse)) := by
  have admitted : ∀ e ∈ [(key, v)],
      role.takesMore = true ∧ e.1 ∉ (role.fields entries).map Prod.fst := by
    intro e mem
    rw [List.mem_singleton.mp mem]
    exact ⟨more, other⟩
  refine .obj renew admitted ?_
  rw [← List.reverse_concat]
  exact List.reverse_perm _

namespace Json

def one : Json := .obj [("node", .str "Number"), ("value", .int 1)]

/-- The key that is added to the number is a field of operations. -/
def oneBackwards : Json :=
  .obj [("left", .null), ("value", .int 1), ("node", .str "Number")]

def returnOne : Json := .obj [("node", .str "ReturnStmt"), ("value", one)]

/-- The key that is added to the statement is a field of declarations. -/
def returnOneBackwards : Json :=
  .obj [("vars", .bool true), ("value", oneBackwards), ("node", .str "ReturnStmt")]

/-- A program that returns a number. -/
def returning : Json :=
  .obj [("function",
    .obj [("return_type", .str "int"), ("name", .str "f"), ("body", .arr [returnOne])])]

/-- The same program with every object backwards and one more key in each. -/
def returningBackwards : Json :=
  .obj [("version", .arr [.null]), ("function",
    .obj [("node", .obj []), ("body", .arr [returnOneBackwards]), ("name", .str "f"),
      ("return_type", .str "int")])]

theorem returning_respells_backwards : returning.Respells .program returningBackwards := by
  have number : one.Respells .expr oneBackwards :=
    .backwards [("node", .str "Number"), ("value", .int 1)] (.refl _ _) rfl (by decide)
  have statement : returnOne.Respells .stmt returnOneBackwards :=
    .backwards [("node", .str "ReturnStmt"), ("value", oneBackwards)]
      (.cons (.same _ _) (.cons number .nil)) rfl (by decide)
  have body : (Json.arr [returnOne]).Respells (.list .stmt) (.arr [returnOneBackwards]) :=
    .arr (.cons statement .nil)
  refine .backwards [("function", _)] (.cons ?_ .nil) rfl (by decide)
  exact .backwards
    [("return_type", .str "int"), ("name", .str "f"), ("body", .arr [returnOneBackwards])]
    (.cons (.same _ _) (.cons (.same _ _) (.cons body .nil))) rfl (by decide)

end Json

/-- Backwards and with the other keys it is the same program. -/
theorem Program.ofValue_respelled_backwards :
    Json.returning.Distinct ∧ Json.returningBackwards.Distinct ∧
      Json.returning.Respells .program Json.returningBackwards ∧
      Program.ofValue Json.returningBackwards =
        .ok ⟨⟨.int, "f", [], [.ret (some (.number 1 .unknown)) .unknown], .unknown⟩, .unknown⟩ := by
  have distinct : Json.returning.Distinct := by
    simp [Json.returning, Json.returnOne, Json.one]
  have distinct' : Json.returningBackwards.Distinct := by
    simp [Json.returningBackwards, Json.returnOneBackwards, Json.oneBackwards]
  exact ⟨distinct, distinct', Json.returning_respells_backwards,
    Program.ofValue_respelled distinct (by decide) Json.returning_respells_backwards distinct'⟩

end Scopewise
