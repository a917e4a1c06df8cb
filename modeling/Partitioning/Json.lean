import Partitioning.Json.Number

/-!
# JSON values

Objects are lists of members. A value is in canonical form when every object lists its members by
increasing key, each key once; the last of several members with one key is the one that counts.
-/

namespace Partitioning

inductive Json where
  | null
  | bool (b : Bool)
  | number (n : Json.Number)
  | string (s : String)
  | array (items : List Json)
  | object (members : List (String × Json))

namespace Json

def int (n : Int) : Json := .number (.integer n)

def ofOption : Option Json → Json
  | none => .null
  | some j => j

/-- Adds a member to a list in increasing order of keys, in place of one with the same key. -/
def insertMember {α : Type} (key : String) (value : α) : List (String × α) → List (String × α)
  | [] => [(key, value)]
  | (k, v) :: rest =>
    if key < k then (key, value) :: (k, v) :: rest
    else if key = k then (key, value) :: rest
    else (k, v) :: insertMember key value rest

/-- The members in increasing order of keys; a later member replaces an earlier one. -/
def ordered {α : Type} (members : List (String × α)) : List (String × α) :=
  members.foldl (fun done m => insertMember m.1 m.2 done) []

mutual
def canonical : Json → Json
  | .array items => .array (canonicalItems items)
  | .object members => .object (ordered (canonicalMembers members))
  | j => j

def canonicalItems : List Json → List Json
  | [] => []
  | j :: rest => canonical j :: canonicalItems rest

def canonicalMembers : List (String × Json) → List (String × Json)
  | [] => []
  | (k, j) :: rest => (k, canonical j) :: canonicalMembers rest
end

mutual
/-- Equality of canonical values, with numbers compared by `Number.same`. -/
def same : Json → Json → Bool
  | .null, .null => true
  | .bool a, .bool b => a == b
  | .number a, .number b => a.same b
  | .string a, .string b => a == b
  | .array a, .array b => sameItems a b
  | .object a, .object b => sameMembers a b
  | _, _ => false

def sameItems : List Json → List Json → Bool
  | [], [] => true
  | a :: as, b :: bs => same a b && sameItems as bs
  | _, _ => false

def sameMembers : List (String × Json) → List (String × Json) → Bool
  | [], [] => true
  | (k, a) :: as, (l, b) :: bs => k == l && same a b && sameMembers as bs
  | _, _ => false
end

end Json

end Partitioning
