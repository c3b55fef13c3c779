import CheckedSql.Syntax.Basic

/-!
# Equality of trees

`==` compares trees node by node, with everything a node keeps: the type found
for it, the declaration of a column, and the presence of each entry.  Values are
compared by their own `==`, so a tree that contains a NaN differs from itself.

`GROUP BY` uses this equality to recognise its entries in other clauses, and
repeated arguments are found with it.
-/

namespace CheckedSql

mutual

/-- Equality of expressions. -/
def Expr.beq : Expr → Expr → Bool
  | .column c, .column c' => c == c'
  | .value v, .value v' => v == v'
  | .parameter p, .parameter p' => p == p'
  | .unary o e, .unary o' e' => o == o' && Expr.beq e e'
  | .binary o l r t, .binary o' l' r' t' => o == o' && Expr.beq l l' && Expr.beq r r' && t == t'
  | .concat l r, .concat l' r' => Expr.beq l l' && Expr.beq r r'
  | .chain c es, .chain c' es' => c == c' && Expr.beqEntries es es'
  | .within n e es, .within n' e' es' => n == n' && Expr.beq e e' && Expr.beqList es es'
  | .between e l h, .between e' l' h' => Expr.beq e e' && Expr.beq l l' && Expr.beq h h'
  | .cases bs e t, .cases bs' e' t' => Expr.beqBranches bs bs' && Expr.beq e e' && t == t'
  | .aggregate c e, .aggregate c' e' => c == c' && Expr.beqOption e e'
  | .groupKey e, .groupKey e' => Expr.beq e e'
  | .existsIn s, .existsIn s' => Select.beq s s'
  | .subquery s, .subquery s' => Select.beq s s'
  | _, _ => false
termination_by structural x => x

def Expr.beqOption : Option Expr → Option Expr → Bool
  | none, none => true
  | some e, some e' => Expr.beq e e'
  | _, _ => false
termination_by structural x => x

def Expr.beqList : List Expr → List Expr → Bool
  | [], [] => true
  | e :: es, e' :: es' => Expr.beq e e' && Expr.beqList es es'
  | _, _ => false
termination_by structural x => x

def Expr.beqRows : List (List Expr) → List (List Expr) → Bool
  | [], [] => true
  | r :: rs, r' :: rs' => Expr.beqList r r' && Expr.beqRows rs rs'
  | _, _ => false
termination_by structural x => x

def Expr.beqBranches : List (Expr × Expr) → List (Expr × Expr) → Bool
  | [], [] => true
  | (c, r) :: bs, (c', r') :: bs' => Expr.beq c c' && Expr.beq r r' && Expr.beqBranches bs bs'
  | _, _ => false
termination_by structural x => x

def Expr.beqEntry : Entry Expr → Entry Expr → Bool
  | ⟨p, e⟩, ⟨p', e'⟩ => p == p' && Expr.beq e e'
termination_by structural x => x

def Expr.beqEntryOption : Option (Entry Expr) → Option (Entry Expr) → Bool
  | none, none => true
  | some e, some e' => Expr.beqEntry e e'
  | _, _ => false
termination_by structural x => x

def Expr.beqEntries : List (Entry Expr) → List (Entry Expr) → Bool
  | [], [] => true
  | e :: es, e' :: es' => Expr.beqEntry e e' && Expr.beqEntries es es'
  | _, _ => false
termination_by structural x => x

/-- Equality of selects. -/
def Select.beq : Select → Select → Bool
  | ⟨cs⟩, ⟨cs'⟩ => Clause.beqList cs cs'
termination_by structural x => x

def Select.beqEntry : Entry Select → Entry Select → Bool
  | ⟨p, s⟩, ⟨p', s'⟩ => p == p' && Select.beq s s'
termination_by structural x => x

def SelectColumn.beqEntries :
    List (Entry SelectColumn) → List (Entry SelectColumn) → Bool
  | [], [] => true
  | ⟨p, ⟨e, n, a⟩⟩ :: cs, ⟨p', ⟨e', n', a'⟩⟩ :: cs' =>
      p == p' && Expr.beq e e' && n == n' && a == a' && SelectColumn.beqEntries cs cs'
  | _, _ => false
termination_by structural x => x

def Assignment.beqEntries : List (Entry Assignment) → List (Entry Assignment) → Bool
  | [], [] => true
  | ⟨p, ⟨c, v⟩⟩ :: as, ⟨p', ⟨c', v'⟩⟩ :: as' =>
      p == p' && c == c' && Expr.beqOption v v' && Assignment.beqEntries as as'
  | _, _ => false
termination_by structural x => x

def SortOrder.beqEntries : List (Entry SortOrder) → List (Entry SortOrder) → Bool
  | [], [] => true
  | ⟨p, ⟨e, d, n⟩⟩ :: os, ⟨p', ⟨e', d', n'⟩⟩ :: os' =>
      p == p' && Expr.beq e e' && d == d' && n == n' && SortOrder.beqEntries os os'
  | _, _ => false
termination_by structural x => x

def InsertValues.beq : InsertValues → InsertValues → Bool
  | .defaultValues, .defaultValues => true
  | .set as, .set as' => Assignment.beqEntries as as'
  | .rows cs rs, .rows cs' rs' => cs == cs' && Expr.beqRows rs rs'
  | _, _ => false
termination_by structural x => x

def ConflictAction.beq : ConflictAction → ConflictAction → Bool
  | .doNothing, .doNothing => true
  | .doUpdate as c, .doUpdate as' c' => Assignment.beqEntries as as' && Expr.beqEntryOption c c'
  | _, _ => false
termination_by structural x => x

/-- Equality of clauses. -/
def Clause.beq : Clause → Clause → Bool
  | .with cs, .with cs' => Cte.beqEntries cs cs'
  | .columns d cs, .columns d' cs' => d == d' && SelectColumn.beqEntries cs cs'
  | .target k t, .target k' t' => k == k' && t == t'
  | .set as, .set as' => Assignment.beqEntries as as'
  | .values vs, .values vs' => InsertValues.beq vs vs'
  | .source k t, .source k' t' => k == k' && TableRef.beq t t'
  | .where c, .where c' => Expr.beqEntryOption c c'
  | .groupBy es, .groupBy es' => Expr.beqEntries es es'
  | .having c, .having c' => Expr.beqEntry c c'
  | .union d s, .union d' s' => d == d' && Select.beqEntry s s'
  | .orderBy os, .orderBy os' => SortOrder.beqEntries os os'
  | .limit k e, .limit k' e' => k == k' && Expr.beq e e'
  | .onConflict cs a, .onConflict cs' a' => cs == cs' && ConflictAction.beq a a'
  | .returning cs, .returning cs' => SelectColumn.beqEntries cs cs'
  | _, _ => false
termination_by structural x => x

def Clause.beqList : List Clause → List Clause → Bool
  | [], [] => true
  | c :: cs, c' :: cs' => Clause.beq c c' && Clause.beqList cs cs'
  | _, _ => false
termination_by structural x => x

/-- Equality of table references. -/
def TableRef.beq : TableRef → TableRef → Bool
  | .table t, .table t' => t == t'
  | .cte r, .cte r' => r == r'
  | .subSelect s, .subSelect s' => SubSelect.beq s s'
  | .join l k r c, .join l' k' r' c' =>
      TableRef.beq l l' && k == k' && TableRef.beqEntry r r' && Expr.beqOption c c'
  | _, _ => false
termination_by structural x => x

def TableRef.beqEntry : Entry TableRef → Entry TableRef → Bool
  | ⟨p, t⟩, ⟨p', t'⟩ => p == p' && TableRef.beq t t'
termination_by structural x => x

/-- Equality of sub-selects. -/
def SubSelect.beq : SubSelect → SubSelect → Bool
  | ⟨s, a, fs⟩, ⟨s', a', fs'⟩ => Select.beq s s' && a == a' && fs == fs'
termination_by structural x => x

/-- Equality of common table expressions. -/
def Cte.beq : Cte → Cte → Bool
  | ⟨n, b, as, fs⟩, ⟨n', b', as', fs'⟩ =>
      n == n' && Select.beq b b' && CteArm.beqList as as' && fs == fs'
termination_by structural x => x

def Cte.beqEntries : List (Entry Cte) → List (Entry Cte) → Bool
  | [], [] => true
  | ⟨p, c⟩ :: cs, ⟨p', c'⟩ :: cs' => p == p' && Cte.beq c c' && Cte.beqEntries cs cs'
  | _, _ => false
termination_by structural x => x

def CteArm.beqList : List CteArm → List CteArm → Bool
  | [], [] => true
  | ⟨d, s, r⟩ :: as, ⟨d', s', r'⟩ :: as' =>
      d == d' && Select.beqEntry s s' && r == r' && CteArm.beqList as as'
  | _, _ => false
termination_by structural x => x

end

instance : BEq Expr := ⟨Expr.beq⟩
instance : BEq Select := ⟨Select.beq⟩
instance : BEq Clause := ⟨Clause.beq⟩
instance : BEq TableRef := ⟨TableRef.beq⟩
instance : BEq SubSelect := ⟨SubSelect.beq⟩
instance : BEq Cte := ⟨Cte.beq⟩

example :
    (Expr.chain .or [.static (.value .null), .dynamic true (.value (.bool true))]
      == .chain .or [.static (.value .null), .dynamic false (.value (.bool true))]) = false := by
  decide

example : (Expr.value (.float (.nan false)) == .value (.float (.nan false))) = false := by decide

end CheckedSql
