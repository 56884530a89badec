import RestConfig.Value.Basic

/-!
# Ordering values

Only some values can be ordered: numbers of any kind among themselves, texts among
themselves (by code points), byte strings among themselves, and lists or tuples of the
same sort item by item, the first differing pair deciding and a proper prefix coming
first. Not-a-number is neither below nor above anything. Any other pair cannot be ordered,
and asking for its order is an error that names the two kinds.
-/

namespace RestConfig.Value

mutual
def below? : Value → Value → Option Bool
  | .str a, .str b => some (decide (a < b))
  | .bytes a, .bytes b => some (decide (a.map UInt8.toNat < b.map UInt8.toNat))
  | .list a, .list b => itemsBelow? a b
  | .tuple a, .tuple b => itemsBelow? a b
  | a, b =>
    if a.isNumeric && b.isNumeric then
      match a.number?, b.number? with
      | some x, some y => some (x.compare y == .lt)
      | _, _ => some false
    else Option.none

def itemsBelow? : List Value → List Value → Option Bool
  | [], [] => some false
  | [], _ :: _ => some true
  | _ :: _, [] => some false
  | a :: as, b :: bs => if same a b then itemsBelow? as bs else below? a b
end

def unorderedMessage (op : String) (a b : Value) : String :=
  "'" ++ op ++ "' not supported between instances of '" ++ a.typeName ++ "' and '" ++
    b.typeName ++ "'"

def lessThan (a b : Value) : Except String Bool :=
  match below? a b with
  | some r => .ok r
  | Option.none => .error (unorderedMessage "<" a b)

def greaterThan (a b : Value) : Except String Bool :=
  match below? b a with
  | some r => .ok r
  | Option.none => .error (unorderedMessage ">" a b)

end RestConfig.Value
