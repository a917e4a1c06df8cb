import Partitioning.Json
import Partitioning.Json.Token

/-!
# Documents

A document is a JSON value as its reader meets it, part by part. A faulty text is a document too:
its fault stands at the place where a reader runs into it, so what is wrong with the values before
that place is found first. A value that is skipped is read leniently and one that is used
strictly, and the two may run into different faults.
-/

namespace Partitioning.Json

/-- How the parts of a container end. Of a container with a known size it can be told how many
parts are left; a written one is only closed, or broken. -/
inductive Ending where
  | known
  | closed
  | broken (strict lenient : Fault)

/-- `unreadable` can be skipped but not used; behind `broken` nothing can be read. -/
inductive Document where
  | scalar (s : Scalar)
  | array (items : List Document) (ending : Ending)
  | object (members : List (Except Fault String × Document)) (ending : Ending)
  | unreadable (fault : Fault)
  | broken (strict lenient : Fault)

def Ending.lenient? : Ending → Option Fault
  | .broken _ lenient => some lenient
  | _ => none

def Ending.strict? : Ending → Option Fault
  | .broken strict _ => some strict
  | _ => none

namespace Document

mutual
/-- The fault met when a document is skipped. -/
def skipFault? : Document → Option Fault
  | .scalar _ => none
  | .array items ending => skipItems? items ending
  | .object members ending => skipMembers? members ending
  | .unreadable _ => none
  | .broken _ lenient => some lenient

def skipItems? : List Document → Ending → Option Fault
  | [], ending => ending.lenient?
  | d :: rest, ending => (skipFault? d).or (skipItems? rest ending)

def skipMembers? : List (Except Fault String × Document) → Ending → Option Fault
  | [], ending => ending.lenient?
  | (_, d) :: rest, ending => (skipFault? d).or (skipMembers? rest ending)
end

/-- A container beyond the depth limit: it can be skipped if its parts can. -/
def beyondLimit (d : Document) : Document :=
  match d.skipFault? with
  | some lenient => .broken .nestingTooDeep lenient
  | none => .unreadable .nestingTooDeep

/-- Readers nest at most this deep. -/
def depthLimit : Nat := 127

def limited (depth : Nat) (d : Document) : Document :=
  if depth = depthLimit then beyondLimit d else d

mutual
/-- The first document of a token stream inside `depth` containers, and what follows it: nothing
if the document is broken. Each token is looked at by at most three calls, which bounds the
fuel. -/
def value : Nat → Nat → List Token → Document × List Token
  | 0, _, _ => (.broken .valueExpected .valueExpected, [])
  | fuel + 1, depth, tokens =>
    match tokens with
    | [] => (.broken .endInValue .endInValue, [])
    | .scalar s :: rest => (.scalar s, rest)
    | .unreadable _ fault :: rest => (.unreadable fault, rest)
    | .broken _ strict lenient :: _ => (.broken strict lenient, [])
    | .openList :: .closeList :: rest => (limited depth (.array [] .closed), rest)
    | .openList :: [] => (limited depth (.array [] (.broken .endInList .endInList)), [])
    | .openList :: rest =>
      let (parts, ending, rest) := items fuel (depth + 1) rest
      (limited depth (.array parts ending), rest)
    | .openObject :: .closeObject :: rest => (limited depth (.object [] .closed), rest)
    | .openObject :: [] => (limited depth (.object [] (.broken .endInObject .endInObject)), [])
    | .openObject :: rest =>
      let (parts, ending, rest) := members fuel (depth + 1) rest
      (limited depth (.object parts ending), rest)
    | _ => (.broken .valueExpected .valueExpected, [])

/-- The items of a list from one of them on. -/
def items : Nat → Nat → List Token → List Document × Ending × List Token
  | 0, _, _ => ([], .broken .valueExpected .valueExpected, [])
  | fuel + 1, depth, tokens =>
    let (item, rest) := value fuel depth tokens
    match rest with
    | [] => ([item], .broken .endInList .endInList, [])
    | .closeList :: rest => ([item], .closed, rest)
    | .comma :: .closeList :: _ => ([item, .broken .trailingComma .valueExpected], .closed, [])
    | .comma :: rest =>
      let (more, ending, rest) := items fuel depth rest
      (item :: more, ending, rest)
    | _ => ([item], .broken .listSeparatorExpected .listSeparatorExpected, [])

/-- The members of an object from a key on. -/
def members : Nat → Nat → List Token →
    List (Except Fault String × Document) × Ending × List Token
  | 0, _, _ => ([], .broken .keyNotString .keyNotString, [])
  | fuel + 1, depth, tokens =>
    match tokens with
    | [] => ([], .broken .endInValue .endInObject, [])
    | .scalar (.string key) :: rest => member fuel depth (.ok key) rest
    | .unreadable true fault :: rest => member fuel depth (.error fault) rest
    | .broken true strict lenient :: _ => ([], .broken strict lenient, [])
    | _ => ([], .broken .keyNotString .keyNotString, [])

/-- The members of an object from the colon behind a key on. -/
def member : Nat → Nat → Except Fault String → List Token →
    List (Except Fault String × Document) × Ending × List Token
  | 0, _, _, _ => ([], .broken .colonExpected .colonExpected, [])
  | fuel + 1, depth, key, tokens =>
    match tokens with
    | [] => ([(key, .broken .endInObject .endInObject)], .closed, [])
    | .colon :: rest =>
      let (item, rest) := value fuel depth rest
      match rest with
      | [] => ([(key, item)], .broken .endInObject .endInObject, [])
      | .closeObject :: rest => ([(key, item)], .closed, rest)
      | .comma :: .closeObject :: _ => ([(key, item)], .broken .trailingComma .keyNotString, [])
      | .comma :: rest =>
        let (more, ending, rest) := members fuel depth rest
        ((key, item) :: more, ending, rest)
      | _ => ([(key, item)], .broken .objectSeparatorExpected .objectSeparatorExpected, [])
    | _ => ([(key, .broken .colonExpected .colonExpected)], .closed, [])
end

/-- The document at the start of a text, and whether anything follows it. -/
def ofText (s : String) : Document × Bool :=
  let tokens := Token.ofText s
  let (d, rest) := value (3 * tokens.length + 1) 0 tokens
  (d, !rest.isEmpty)

mutual
/-- A value as a document: nothing in it is faulty and all its sizes are known. -/
def ofJson : Json → Document
  | .null => .scalar .null
  | .bool b => .scalar (.bool b)
  | .number n => .scalar (.number n)
  | .string s => .scalar (.string s)
  | .array items => .array (ofItems items) .known
  | .object members => .object (ofMembers members) .known

def ofItems : List Json → List Document
  | [] => []
  | j :: rest => ofJson j :: ofItems rest

def ofMembers : List (String × Json) → List (Except Fault String × Document)
  | [] => []
  | (k, j) :: rest => (.ok k, ofJson j) :: ofMembers rest
end

def Scalar.toJson : Scalar → Json
  | .null => .null
  | .bool b => .bool b
  | .number n => .number n
  | .string s => .string s

def Ending.finish (ending : Ending) : Except Fault Unit :=
  match ending.strict? with
  | some fault => .error fault
  | none => .ok ()

mutual
/-- The value of a document read strictly, members in their written order and none dropped. -/
def toJson : Document → Except Fault Json
  | .scalar s => .ok (Scalar.toJson s)
  | .array items ending => (toItems ending items).map .array
  | .object members ending => (toMembers ending members).map .object
  | .unreadable fault => .error fault
  | .broken strict _ => .error strict

def toItems (ending : Ending) : List Document → Except Fault (List Json)
  | [] => (Ending.finish ending).map fun _ => []
  | d :: rest => do
      let j ← toJson d
      let more ← toItems ending rest
      pure (j :: more)

def toMembers (ending : Ending) :
    List (Except Fault String × Document) → Except Fault (List (String × Json))
  | [] => (Ending.finish ending).map fun _ => []
  | (key, d) :: rest => do
      let k ← key
      let j ← toJson d
      let more ← toMembers ending rest
      pure ((k, j) :: more)
end

end Document

end Partitioning.Json
