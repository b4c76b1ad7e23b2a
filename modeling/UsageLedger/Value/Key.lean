/-
Values that are looked up.

A value that can change has no place of its own in a table of keys, so lists and records
cannot be looked up, nor can an object with a part that can change, and neither can an
undefined number that signals.  Numbers of all
kinds are one key when they are equal as numbers, and so are truth values, which count as
one and zero (`sameKey`).
-/
import UsageLedger.Value

namespace UsageLedger.Value

/-- Why a value cannot be looked up, if it cannot. -/
def keyDefect? : Value → Option String
  | list _ => some "unhashable type: 'list'"
  | record _ => some "unhashable type: 'dict'"
  | object _ (some part) _ _ => some ("unhashable type: '" ++ part ++ "'")
  | decimal (.nan _ true _) => some "Cannot hash a signaling NaN value"
  | _ => none

/-- The number that a value stands for, of whatever kind it is. -/
def number? : Value → Option Decimal
  | bool b => some (.ofInt (if b then 1 else 0))
  | int n => some (.ofInt n)
  | float x => some x.toDecimal
  | decimal d => some d
  | _ => none

/-- Two values that can be looked up are the same key. -/
def sameKey (v w : Value) : Bool :=
  match v, w with
  | null, null => true
  | int m, int n => m = n
  | text s, text t => s = t
  | brokenText s, brokenText t => s = t
  | bytes a, bytes b => a = b
  | uuid u, uuid u' => u = u'
  | timestamp t, timestamp t' => t.offset.isSome = t'.offset.isSome && t.instant = t'.instant
  | v, w =>
    match v.number?, w.number? with
    | some d, some d' => d.sameValue d'
    | _, _ => false

/-- The values in the order in which they first come, each key once. -/
def distinctKeys (values : List Value) : List Value :=
  values.foldl (fun seen v => if seen.any (sameKey v) then seen else seen ++ [v]) []

end UsageLedger.Value
