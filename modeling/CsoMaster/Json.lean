import Mathlib.Data.List.Basic

/-! JSON values as a C++ library hands them out: what a value is asked for, and the type errors that
are thrown where it is of another type. Numbers count for the integer they are converted to,
objects list their members in the order of their keys. Nothing here depends on what the values
are for. -/
namespace CsoMaster

inductive Json where
  | null
  | boolean (value : Bool)
  | number (value : Int)
  | string (value : List UInt8)
  | array (elements : List Json)
  | object (members : List (List UInt8 × Json))

namespace Json

-- `type_error` 302, 306 and 312.
inductive TypeError where
  | get
  | value
  | update
  deriving DecidableEq, Repr

def isObject : Json → Bool
  | .object _ => true
  | _ => false

section Access
variable {α : Type}

def find (key : List UInt8) : Json → Option Json
  | .object members => members.lookup key
  | _ => none

def contains (key : List UInt8) (j : Json) : Bool := (j.find key).isSome

-- A member, converted, or what stands in for one that is not there.
def value (get : Json → Except TypeError α) (key : List UInt8) (default : α) : Json → Except TypeError α
  | .object members =>
    match members.lookup key with
    | none => .ok default
    | some j => get j
  | _ => .error .value

-- What a range-based for goes over.
def items : Json → List Json
  | .null => []
  | .array elements => elements
  | .object members => members.map Prod.snd
  | j => [j]

def getInt : Json → Except TypeError Int
  | .number n => .ok n
  | .boolean b => .ok (if b then 1 else 0)
  | _ => .error .get

def getBool : Json → Except TypeError Bool
  | .boolean b => .ok b
  | _ => .error .get

def getString : Json → Except TypeError (List UInt8)
  | .string s => .ok s
  | _ => .error .get

def getVector (get : Json → Except TypeError α) : Json → Except TypeError (List α)
  | .array elements => elements.mapM get
  | _ => .error .get

end Access

section Update

-- `object[key] = value`
def setMember (key : List UInt8) (value : Json) : List (List UInt8 × Json) → List (List UInt8 × Json)
  | [] => [(key,value)]
  | (k,v) :: members =>
    if k = key then (key,value) :: members
    else if key < k then (key,value) :: (k,v) :: members
    else (k,v) :: setMember key value members

mutual

-- `target.update(source, true)`: objects are merged member by member, anything else is replaced.
def merge : Json → Json → Except TypeError Json
  | .object members, .null => (mergeMembers members []).map .object
  | .object members, .object into => (mergeMembers members into).map .object
  | _, _ => .error .update

def mergeMembers : List (List UInt8 × Json) → List (List UInt8 × Json) → Except TypeError (List (List UInt8 × Json))
  | [], into => .ok into
  | (key,value) :: members, into =>
    match into.lookup key with
    | none => mergeMembers members (setMember key value into)
    | some old =>
      if value.isObject then do
        let merged ← merge value old
        mergeMembers members (setMember key merged into)
      else mergeMembers members (setMember key value into)

end

end Update
end Json
end CsoMaster
