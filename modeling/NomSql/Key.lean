import NomSql.Table
import NomSql.Literal.RoundTrip

/-!
# Table keys and their display

`IndexType`, `ReferentialAction` and `TableKey`, with their `Display`.  Every name a key's
display writes is put between backquotes, and of a column it writes the name alone:

* `fmt_eraseTables`: a key prints as the same key with its columns' tables dropped;
* `index_key_fmt_eq_iff`: for the four index keys (primary, unique, fulltext and plain keys)
  whose quoted names hold no backquote, that is all the display forgets: two of them print
  alike exactly when they agree once their columns' tables are dropped.  The text is read
  back from the left: the kind by its first byte, a name up to the backquote that closes it,
  the columns up to the `)` after the last, and the index type from what is left.

A foreign key's name is written with `unwrap_or("")`, so an unnamed foreign key prints as
``CONSTRAINT `` FOREIGN KEY``, as the key named by the empty identifier does; its index name
is written bare, with no backquotes.
-/

namespace NomSql

/-- `IndexType`. -/
inductive IndexType
  | bTree
  | hash
deriving DecidableEq

/-- `impl Display for IndexType`. -/
def IndexType.fmt : IndexType → Bytes
  | .bTree => ascii "BTREE"
  | .hash => ascii "HASH"

/-- `ReferentialAction`. -/
inductive ReferentialAction
  | cascade
  | setNull
  | restrict
  | noAction
  | setDefault
deriving DecidableEq

/-- `impl Display for ReferentialAction`. -/
def ReferentialAction.fmt : ReferentialAction → Bytes
  | .cascade => ascii "CASCADE"
  | .setNull => ascii "SET NULL"
  | .restrict => ascii "RESTRICT"
  | .noAction => ascii "NO ACTION"
  | .setDefault => ascii "SET DEFAULT"

/-- `TableKey`, over the type of the expressions of check constraints. -/
inductive TableKey (Expr : Type)
  | primaryKey (name : Option Bytes) (columns : List Column)
  | uniqueKey (name : Option Bytes) (columns : List Column) (indexType : Option IndexType)
  | fulltextKey (name : Option Bytes) (columns : List Column)
  | key (name : Bytes) (columns : List Column) (indexType : Option IndexType)
  | foreignKey (name indexName : Option Bytes) (columns : List Column) (targetTable : Table)
      (targetColumns : List Column) (onDelete onUpdate : Option ReferentialAction)
  | checkConstraint (name : Option Bytes) (expr : Expr) (enforced : Option Bool)
deriving DecidableEq

/-! ### `impl Display for TableKey` -/

/-- A name between backquotes, as every quoted name of a key is written. -/
def backquoted (name : Bytes) : Bytes := ascii "`" ++ name ++ ascii "`"

/-- The columns of a key: each name between backquotes, joined by `", "`. -/
def columnNames (columns : List Column) : Bytes :=
  (ascii ", ").intercalate (columns.map fun c => backquoted c.name)

/-- The name of a primary, unique or fulltext key, with a space after it, where it has one. -/
def namePrefix : Option Bytes → Bytes
  | some name => backquoted name ++ ascii " "
  | none => []

/-- ` USING {index_type}`, where there is an index type. -/
def usingText : Option IndexType → Bytes
  | some indexType => ascii " USING " ++ indexType.fmt
  | none => []

/-- ` ON DELETE {action}` or ` ON UPDATE {action}`, where there is an action. -/
def actionText (clause : String) : Option ReferentialAction → Bytes
  | some action => ascii clause ++ action.fmt
  | none => []

/-- ` NOT ENFORCED` or ` ENFORCED`, where a check constraint says which. -/
def enforcedText : Option Bool → Bytes
  | some enforced => (if enforced then [] else ascii " NOT") ++ ascii " ENFORCED"
  | none => []

variable {Expr : Type} (tableFmt : Table → Bytes) (exprFmt : Expr → Bytes)

/-- `impl Display for TableKey`, given the `Display` of tables and of expressions, which are
defined elsewhere. -/
def TableKey.fmt : TableKey Expr → Bytes
  | .primaryKey name columns =>
    ascii "PRIMARY KEY " ++ namePrefix name ++ ascii "(" ++ columnNames columns ++ ascii ")"
  | .uniqueKey name columns indexType =>
    ascii "UNIQUE KEY " ++ namePrefix name ++ ascii "(" ++ columnNames columns ++ ascii ")" ++
      usingText indexType
  | .fulltextKey name columns =>
    ascii "FULLTEXT KEY " ++ namePrefix name ++ ascii "(" ++ columnNames columns ++ ascii ")"
  | .key name columns indexType =>
    ascii "KEY " ++ backquoted name ++ ascii " " ++ ascii "(" ++ columnNames columns ++
      ascii ")" ++ usingText indexType
  | .foreignKey name indexName columns targetTable targetColumns onDelete onUpdate =>
    ascii "CONSTRAINT " ++ backquoted (name.getD []) ++ ascii " FOREIGN KEY " ++
      indexName.getD [] ++ ascii "(" ++ columnNames columns ++ ascii ") REFERENCES " ++
      tableFmt targetTable ++ ascii " (" ++ columnNames targetColumns ++ ascii ")" ++
      actionText " ON DELETE " onDelete ++ actionText " ON UPDATE " onUpdate
  | .checkConstraint name expr enforced =>
    ascii "CONSTRAINT" ++
      (match name with | some name => ascii " " ++ backquoted name | none => []) ++
      ascii " CHECK " ++ exprFmt expr ++ enforcedText enforced

/-! ### What the display forgets -/

/-- The column with its table dropped. -/
def Column.eraseTable (c : Column) : Column := ⟨c.name, none⟩

/-- The key with its columns' tables dropped. -/
def TableKey.eraseTables : TableKey Expr → TableKey Expr
  | .primaryKey name columns => .primaryKey name (columns.map Column.eraseTable)
  | .uniqueKey name columns indexType => .uniqueKey name (columns.map Column.eraseTable) indexType
  | .fulltextKey name columns => .fulltextKey name (columns.map Column.eraseTable)
  | .key name columns indexType => .key name (columns.map Column.eraseTable) indexType
  | .foreignKey name indexName columns targetTable targetColumns onDelete onUpdate =>
    .foreignKey name indexName (columns.map Column.eraseTable) targetTable
      (targetColumns.map Column.eraseTable) onDelete onUpdate
  | .checkConstraint name expr enforced => .checkConstraint name expr enforced

@[simp] theorem columnNames_map_eraseTable (columns : List Column) :
    columnNames (columns.map Column.eraseTable) = columnNames columns := by
  simp only [columnNames, List.map_map]
  rfl

theorem fmt_eraseTables (k : TableKey Expr) :
    k.eraseTables.fmt tableFmt exprFmt = k.fmt tableFmt exprFmt := by
  cases k <;> simp only [TableKey.eraseTables, TableKey.fmt, columnNames_map_eraseTable]

/-! ### Reading an index key's display back -/

/-- The kinds of the index keys, as their display opens. -/
def indexKinds : List String := ["PRIMARY KEY ", "UNIQUE KEY ", "FULLTEXT KEY ", "KEY "]

/-- An index key's kind, name, column names and index type: what its display writes. -/
def TableKey.indexView :
    TableKey Expr → Option (String × Option Bytes × List Bytes × Option IndexType)
  | .primaryKey name columns => some ("PRIMARY KEY ", name, columns.map Column.name, none)
  | .uniqueKey name columns indexType =>
    some ("UNIQUE KEY ", name, columns.map Column.name, indexType)
  | .fulltextKey name columns => some ("FULLTEXT KEY ", name, columns.map Column.name, none)
  | .key name columns indexType => some ("KEY ", some name, columns.map Column.name, indexType)
  | .foreignKey .. | .checkConstraint .. => none

/-- Primary, unique, fulltext and plain keys. -/
def TableKey.isIndexKey (k : TableKey Expr) : Bool := k.indexView.isSome

/-- The names the display writes between backquotes. -/
def TableKey.quotedNames : TableKey Expr → List Bytes
  | .primaryKey name columns | .uniqueKey name columns _ | .fulltextKey name columns =>
    name.toList ++ columns.map Column.name
  | .key name columns _ => name :: columns.map Column.name
  | .foreignKey name _ columns _ targetColumns _ _ =>
    name.toList ++ columns.map Column.name ++ targetColumns.map Column.name
  | .checkConstraint name _ _ => name.toList

/-- What follows an index key's kind, from its name, column names and index type. -/
def indexBody (name : Option Bytes) (names : List Bytes) (indexType : Option IndexType) : Bytes :=
  namePrefix name ++ ascii "(" ++ (ascii ", ").intercalate (names.map backquoted) ++ ascii ")" ++
    usingText indexType

section View

variable {k : TableKey Expr} {kind : String} {name : Option Bytes} {names : List Bytes}
  {indexType : Option IndexType}

/-- What a key with an index view is: one of the four index keys, with that kind and those
fields. -/
theorem indexView_eq_some (h : k.indexView = some (kind, name, names, indexType)) :
    ∃ columns, names = columns.map Column.name ∧
      (k = .primaryKey name columns ∧ kind = "PRIMARY KEY " ∧ indexType = none ∨
        k = .uniqueKey name columns indexType ∧ kind = "UNIQUE KEY " ∨
        k = .fulltextKey name columns ∧ kind = "FULLTEXT KEY " ∧ indexType = none ∨
        ∃ n, name = some n ∧ k = .key n columns indexType ∧ kind = "KEY ") := by
  cases k <;> simp only [TableKey.indexView, Option.some.injEq, Prod.mk.injEq, reduceCtorEq] at h <;>
    obtain ⟨rfl, rfl, rfl, rfl⟩ := h
  · exact ⟨_, rfl, .inl ⟨rfl, rfl, rfl⟩⟩
  · exact ⟨_, rfl, .inr (.inl ⟨rfl, rfl⟩)⟩
  · exact ⟨_, rfl, .inr (.inr (.inl ⟨rfl, rfl, rfl⟩))⟩
  · exact ⟨_, rfl, .inr (.inr (.inr ⟨_, rfl, rfl, rfl⟩))⟩

theorem fmt_of_indexView (h : k.indexView = some (kind, name, names, indexType)) :
    k.fmt tableFmt exprFmt = ascii kind ++ indexBody name names indexType := by
  obtain ⟨columns, rfl, ⟨rfl, rfl, rfl⟩ | ⟨rfl, rfl⟩ | ⟨rfl, rfl, rfl⟩ | ⟨n, rfl, rfl, rfl⟩⟩ :=
    indexView_eq_some h <;>
    simp [TableKey.fmt, indexBody, columnNames, namePrefix, usingText, Function.comp_def]

theorem mem_indexKinds_of_indexView (h : k.indexView = some (kind, name, names, indexType)) :
    kind ∈ indexKinds := by
  obtain ⟨-, -, ⟨-, rfl, -⟩ | ⟨-, rfl⟩ | ⟨-, rfl, -⟩ | ⟨-, -, -, rfl⟩⟩ := indexView_eq_some h <;>
    decide

theorem quotedNames_of_indexView (h : k.indexView = some (kind, name, names, indexType)) :
    k.quotedNames = name.toList ++ names := by
  obtain ⟨columns, rfl, ⟨rfl, -⟩ | ⟨rfl, -⟩ | ⟨rfl, -⟩ | ⟨n, rfl, rfl, -⟩⟩ := indexView_eq_some h <;>
    rfl

theorem map_eraseTable (columns : List Column) :
    columns.map Column.eraseTable = (columns.map Column.name).map fun n => ⟨n, none⟩ := by
  simp only [List.map_map]
  rfl

/-- Index keys with one view agree once their columns' tables are dropped. -/
theorem eraseTables_eq_of_indexView {k' : TableKey Expr}
    (h : k.indexView = some (kind, name, names, indexType))
    (h' : k'.indexView = some (kind, name, names, indexType)) : k.eraseTables = k'.eraseTables := by
  obtain ⟨cs, rfl, hk⟩ := indexView_eq_some h
  obtain ⟨cs', hcs, hk'⟩ := indexView_eq_some h'
  have hc : cs.map Column.eraseTable = cs'.map Column.eraseTable := by
    rw [map_eraseTable, map_eraseTable, hcs]
  rcases hk with ⟨rfl, rfl, rfl⟩ | ⟨rfl, rfl⟩ | ⟨rfl, rfl, rfl⟩ | ⟨n, rfl, rfl, rfl⟩ <;>
    rcases hk' with ⟨rfl, e, -⟩ | ⟨rfl, e⟩ | ⟨rfl, e, -⟩ | ⟨n', e', rfl, e⟩ <;>
    first
    | exact absurd e (by decide)
    | simp_all [TableKey.eraseTables]

end View

/-- A byte that neither of two texts holds marks where each ends. -/
theorem append_cons_inj_of_not_mem {b : UInt8} :
    ∀ {n n' r r' : Bytes}, b ∉ n → b ∉ n' → n ++ b :: r = n' ++ b :: r' → n = n' ∧ r = r'
  | [], [], _, _, _, _, h => ⟨rfl, (List.cons.inj h).2⟩
  | [], c :: _, _, _, _, h', h =>
    absurd (List.cons.inj h).1 (fun e => h' (e ▸ List.mem_cons_self _ _))
  | c :: _, [], _, _, h, _, h' =>
    absurd (List.cons.inj h').1 (fun e => h (e ▸ List.mem_cons_self _ _))
  | c :: n, c' :: n', _, _, h, h', hh => by
    simp only [List.cons_append, List.cons.injEq] at hh
    obtain ⟨rfl, hh⟩ := hh
    obtain ⟨rfl, rfl⟩ := append_cons_inj_of_not_mem (List.not_mem_of_not_mem_cons h)
      (List.not_mem_of_not_mem_cons h') hh
    exact ⟨rfl, rfl⟩

theorem backquoted_append (n r : Bytes) : backquoted n ++ r = 96 :: (n ++ 96 :: r) := by
  simp only [backquoted, show ascii "`" = [96] from rfl, List.append_assoc, List.singleton_append,
    List.cons_append, List.nil_append]

theorem backquoted_append_inj {n n' r r' : Bytes} (h : 96 ∉ n) (h' : 96 ∉ n')
    (hq : backquoted n ++ r = backquoted n' ++ r') : n = n' ∧ r = r' := by
  rw [backquoted_append, backquoted_append] at hq
  exact append_cons_inj_of_not_mem h h' (List.cons.inj hq).2

/-- The names after the first, each after `", "`, then `)`: the names and what follows are
read back. -/
theorem quotedTail_append_close_inj : ∀ {ns ns' : List Bytes} {r r' : Bytes},
    (∀ n ∈ ns, 96 ∉ n) → (∀ n ∈ ns', 96 ∉ n) →
    ((ns.map backquoted).map (ascii ", " ++ ·)).flatten ++ 41 :: r =
      ((ns'.map backquoted).map (ascii ", " ++ ·)).flatten ++ 41 :: r' → ns = ns' ∧ r = r'
  | [], [], _, _, _, _, h => ⟨rfl, (List.cons.inj h).2⟩
  | [], _ :: _, _, _, _, _, h => absurd (List.cons.inj h).1 (by decide)
  | _ :: _, [], _, _, _, _, h => absurd (List.cons.inj h).1 (by decide)
  | n :: ns, n' :: ns', _, _, h, h', hh => by
    simp only [List.map_cons, List.flatten_cons, List.append_assoc] at hh
    obtain ⟨rfl, hrest⟩ := backquoted_append_inj (h n (List.mem_cons_self _ _))
      (h' n' (List.mem_cons_self _ _)) (List.append_cancel_left hh)
    obtain ⟨rfl, rfl⟩ := quotedTail_append_close_inj (fun m hm => h m (List.mem_cons_of_mem _ hm))
      (fun m hm => h' m (List.mem_cons_of_mem _ hm)) hrest
    exact ⟨rfl, rfl⟩

/-- The quoted names between a key's parentheses, then `)`: read back. -/
theorem quotedList_append_close_inj : ∀ {ns ns' : List Bytes} {r r' : Bytes},
    (∀ n ∈ ns, 96 ∉ n) → (∀ n ∈ ns', 96 ∉ n) →
    (ascii ", ").intercalate (ns.map backquoted) ++ 41 :: r =
      (ascii ", ").intercalate (ns'.map backquoted) ++ 41 :: r' → ns = ns' ∧ r = r'
  | [], [], _, _, _, _, h => ⟨rfl, (List.cons.inj h).2⟩
  | [], _ :: _, _, _, _, _, h => by
    rw [List.map_cons, intercalate_cons_eq, List.append_assoc, backquoted_append] at h
    exact absurd (List.cons.inj h).1 (by decide)
  | _ :: _, [], _, _, _, _, h => by
    rw [List.map_cons, intercalate_cons_eq, List.append_assoc, backquoted_append] at h
    exact absurd (List.cons.inj h).1 (by decide)
  | n :: ns, n' :: ns', _, _, h, h', hh => by
    simp only [List.map_cons, intercalate_cons_eq, List.append_assoc] at hh
    obtain ⟨rfl, hrest⟩ := backquoted_append_inj (h n (List.mem_cons_self _ _))
      (h' n' (List.mem_cons_self _ _)) hh
    obtain ⟨rfl, rfl⟩ := quotedTail_append_close_inj (fun m hm => h m (List.mem_cons_of_mem _ hm))
      (fun m hm => h' m (List.mem_cons_of_mem _ hm)) hrest
    exact ⟨rfl, rfl⟩

theorem usingText_injective : ∀ {t t' : Option IndexType}, usingText t = usingText t' → t = t'
  | none, none, _ | some .bTree, some .bTree, _ | some .hash, some .hash, _ => rfl
  | none, some .bTree, h | none, some .hash, h | some .bTree, none, h | some .hash, none, h
  | some .bTree, some .hash, h | some .hash, some .bTree, h => absurd h (by decide)

/-- What follows an index key's kind determines its name, column names and index type. -/
theorem indexBody_inj {name name' : Option Bytes} {ns ns' : List Bytes}
    {t t' : Option IndexType} (h : ∀ n ∈ name.toList ++ ns, 96 ∉ n)
    (h' : ∀ n ∈ name'.toList ++ ns', 96 ∉ n) (hb : indexBody name ns t = indexBody name' ns' t') :
    name = name' ∧ ns = ns' ∧ t = t' := by
  simp only [indexBody, show ascii "(" = [40] from rfl, show ascii ")" = [41] from rfl,
    List.append_assoc, List.singleton_append] at hb
  suffices name = name' ∧ (ascii ", ").intercalate (ns.map backquoted) ++ 41 :: usingText t =
      (ascii ", ").intercalate (ns'.map backquoted) ++ 41 :: usingText t' by
    obtain ⟨rfl, hl⟩ := this
    obtain ⟨rfl, hu⟩ := quotedList_append_close_inj (fun n hn => h n (List.mem_append_right _ hn))
      (fun n hn => h' n (List.mem_append_right _ hn)) hl
    exact ⟨rfl, rfl, usingText_injective hu⟩
  match name, name', hb with
  | none, none, hb => exact ⟨rfl, (List.cons.inj hb).2⟩
  | none, some _, hb => exact absurd (List.cons.inj hb).1 (by decide)
  | some _, none, hb => exact absurd (List.cons.inj hb).1 (by decide)
  | some x, some x', hb =>
    simp only [namePrefix, List.append_assoc] at hb
    obtain ⟨rfl, hrest⟩ := backquoted_append_inj (h x (by simp)) (h' x' (by simp)) hb
    exact ⟨rfl, (List.cons.inj (List.cons.inj hrest).2).2⟩

/-- The kinds differ in their first byte. -/
theorem indexKinds_head : ∀ kind ∈ indexKinds, ∀ kind' ∈ indexKinds,
    ascii kind ≠ [] ∧ ((ascii kind).head? = (ascii kind').head? → kind = kind') := by
  decide

theorem kind_append_inj {kind kind' : String} (hk : kind ∈ indexKinds)
    (hk' : kind' ∈ indexKinds) {x y : Bytes} (h : ascii kind ++ x = ascii kind' ++ y) :
    kind = kind' ∧ x = y := by
  obtain ⟨hne, hhead⟩ := indexKinds_head kind hk kind' hk'
  obtain rfl : kind = kind' := hhead (by
    rw [← List.head?_append_of_ne_nil _ hne, h,
      List.head?_append_of_ne_nil _ (indexKinds_head kind' hk' kind hk).1])
  exact ⟨rfl, List.append_cancel_left h⟩

theorem index_key_fmt_eq_iff {k k' : TableKey Expr} (hk : k.isIndexKey) (hk' : k'.isIndexKey)
    (hq : ∀ n ∈ k.quotedNames, 96 ∉ n) (hq' : ∀ n ∈ k'.quotedNames, 96 ∉ n) :
    k.fmt tableFmt exprFmt = k'.fmt tableFmt exprFmt ↔ k.eraseTables = k'.eraseTables := by
  refine ⟨fun h => ?_, fun h => by rw [← fmt_eraseTables, h, fmt_eraseTables]⟩
  obtain ⟨⟨kind, name, ns, t⟩, hv⟩ := Option.isSome_iff_exists.mp hk
  obtain ⟨⟨kind', name', ns', t'⟩, hv'⟩ := Option.isSome_iff_exists.mp hk'
  rw [fmt_of_indexView tableFmt exprFmt hv, fmt_of_indexView tableFmt exprFmt hv'] at h
  obtain ⟨rfl, hb⟩ := kind_append_inj (mem_indexKinds_of_indexView hv)
    (mem_indexKinds_of_indexView hv') h
  rw [quotedNames_of_indexView hv] at hq
  rw [quotedNames_of_indexView hv'] at hq'
  obtain ⟨rfl, rfl, rfl⟩ := indexBody_inj hq hq' hb
  exact eraseTables_eq_of_indexView hv hv'

/-- A primary key on `t.a` prints as the one on `a`. -/
theorem index_key_fmt_eq_iff_at_pk :
    ((TableKey.primaryKey (some (ascii "pk")) [⟨ascii "a", some (ascii "t")⟩] :
        TableKey Unit).isIndexKey ∧
      (TableKey.primaryKey (some (ascii "pk")) [⟨ascii "a", none⟩] : TableKey Unit).isIndexKey ∧
      (∀ n ∈ (TableKey.primaryKey (some (ascii "pk")) [⟨ascii "a", some (ascii "t")⟩] :
        TableKey Unit).quotedNames, 96 ∉ n) ∧
      (∀ n ∈ (TableKey.primaryKey (some (ascii "pk")) [⟨ascii "a", none⟩] :
        TableKey Unit).quotedNames, 96 ∉ n)) ∧
      ((TableKey.primaryKey (some (ascii "pk")) [⟨ascii "a", some (ascii "t")⟩] :
          TableKey Unit).fmt (fun _ => []) (fun _ => []) =
        (TableKey.primaryKey (some (ascii "pk")) [⟨ascii "a", none⟩] :
          TableKey Unit).fmt (fun _ => []) (fun _ => []) ↔
      (TableKey.primaryKey (some (ascii "pk")) [⟨ascii "a", some (ascii "t")⟩] :
          TableKey Unit).eraseTables =
        (TableKey.primaryKey (some (ascii "pk")) [⟨ascii "a", none⟩] : TableKey Unit).eraseTables) :=
  ⟨by decide, index_key_fmt_eq_iff _ _ (by decide) (by decide) (by decide) (by decide)⟩

end NomSql
