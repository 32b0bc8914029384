import PromptForm.Number.Basic

/-!
# Values

Answers, props and configuration are values: null, booleans, numbers, strings, lists and objects. The
fields of an object stand in the order of their keys, each key once; `Fields.insert` keeps it so, and the
last of two values for a key wins.
-/

namespace PromptForm

/-- A value of data text. -/
inductive Value where
  | null
  | bool (b : Bool)
  | number (n : Number)
  | string (s : String)
  | list (items : List Value)
  | object (fields : List (String × Value))
deriving Inhabited

/-- Named values in key order. -/
abbrev Fields := List (String × Value)

namespace Fields

/-- The value under a key. -/
def get? {α : Type} (key : String) : List (String × α) → Option α
  | [] => none
  | (k, v) :: rest => if k = key then some v else get? key rest

/-- Puts a value under a key, in place of the one that was there. -/
def insert {α : Type} (key : String) (value : α) : List (String × α) → List (String × α)
  | [] => [(key, value)]
  | (k, v) :: rest =>
    if k = key then (key, value) :: rest
    else if key < k then (key, value) :: (k, v) :: rest
    else (k, v) :: insert key value rest

/-- The fields with these pairs put in, in turn. -/
def insertAll {α : Type} (pairs : List (String × α)) (fields : List (String × α)) : List (String × α) :=
  pairs.foldl (fun fs (k, v) => insert k v fs) fields

def ofList {α : Type} (pairs : List (String × α)) : List (String × α) := insertAll pairs []

def has {α : Type} (key : String) (fields : List (String × α)) : Bool := (get? key fields).isSome

variable {α : Type}

@[simp] theorem get?_nil (key : String) : get? key ([] : List (String × α)) = none := rfl

@[simp] theorem get?_append (key : String) (pairs more : List (String × α)) :
    get? key (pairs ++ more) = (get? key pairs).or (get? key more) := by
  induction pairs with
  | nil => rfl
  | cons pair pairs ih =>
    rw [List.cons_append, get?, get?]
    split
    · rfl
    · exact ih

/-- What an insertion leaves under each key. -/
theorem get?_insert (fields : List (String × α)) (key k : String) (v : α) :
    get? k (insert key v fields) = if key = k then some v else get? k fields := by
  induction fields with
  | nil => simp [insert, get?]
  | cons head rest ih =>
    obtain ⟨k', v'⟩ := head
    unfold insert
    split
    · rename_i h
      subst h
      simp only [get?]
      split <;> rfl
    · split
      · simp only [get?]
      · simp only [get?, ih]
        rename_i h _
        by_cases hk : k' = k
        · subst hk
          simp [Ne.symm h]
        · simp [hk]

end Fields

namespace Value

def int (n : Int) : Value := .number (.int n)

def float (x : Float) : Value := .number (.float x)

def toString? : Value → Option String
  | .string s => some s
  | _ => none

def toBool? : Value → Option Bool
  | .bool b => some b
  | _ => none

def toNumber? : Value → Option Number
  | .number n => some n
  | _ => none

def toList? : Value → Option (List Value)
  | .list items => some items
  | _ => none

def toFields? : Value → Option Fields
  | .object fields => some fields
  | _ => none

/-- A float from any number. -/
def toFloat? (v : Value) : Option Float := v.toNumber?.map Number.toFloat

/-- A count from an integer that is not negative. -/
def toCount? (v : Value) : Option Nat := v.toNumber?.bind Number.toCount?

def isNull : Value → Bool
  | .null => true
  | _ => false

mutual
/-- Equality of values, numbers as written. -/
def same : Value → Value → Bool
  | .null, .null => true
  | .bool a, .bool b => a == b
  | .number a, .number b => a.same b
  | .string a, .string b => a == b
  | .list a, .list b => sameItems a b
  | .object a, .object b => sameFields a b
  | _, _ => false
termination_by structural v => v
def sameItems : List Value → List Value → Bool
  | [], [] => true
  | a :: as, b :: bs => same a b && sameItems as bs
  | _, _ => false
termination_by structural vs => vs
def sameFields : List (String × Value) → List (String × Value) → Bool
  | [], [] => true
  | (k, a) :: as, (l, b) :: bs => k == l && same a b && sameFields as bs
  | _, _ => false
termination_by structural fs => fs
end

mutual
/-- Equality of values where numbers count by their amount, so that `1` and `1.0` are equal. -/
def equivalent : Value → Value → Bool
  | .null, .null => true
  | .bool a, .bool b => a == b
  | .number a, .number b => a.order? b == some .eq
  | .string a, .string b => a == b
  | .list a, .list b => equivalentItems a b
  | .object a, .object b => equivalentFields a b
  | _, _ => false
termination_by structural v => v
def equivalentItems : List Value → List Value → Bool
  | [], [] => true
  | a :: as, b :: bs => equivalent a b && equivalentItems as bs
  | _, _ => false
termination_by structural vs => vs
def equivalentFields : List (String × Value) → List (String × Value) → Bool
  | [], [] => true
  | (k, a) :: as, (l, b) :: bs => k == l && equivalent a b && equivalentFields as bs
  | _, _ => false
termination_by structural fs => fs
end

mutual
/-- Decides whether two values are one and the same. -/
def decideEq : (a b : Value) → Decidable (a = b)
  | .null, b =>
    match b with
    | .null => .isTrue rfl
    | .bool _ | .number _ | .string _ | .list _ | .object _ => .isFalse nofun
  | .bool x, b =>
    match b with
    | .bool y => if h : x = y then .isTrue (by rw [h]) else .isFalse fun e => h (Value.bool.inj e)
    | .null | .number _ | .string _ | .list _ | .object _ => .isFalse nofun
  | .number x, b =>
    match b with
    | .number y => if h : x = y then .isTrue (by rw [h]) else .isFalse fun e => h (Value.number.inj e)
    | .null | .bool _ | .string _ | .list _ | .object _ => .isFalse nofun
  | .string x, b =>
    match b with
    | .string y => if h : x = y then .isTrue (by rw [h]) else .isFalse fun e => h (Value.string.inj e)
    | .null | .bool _ | .number _ | .list _ | .object _ => .isFalse nofun
  | .list x, b =>
    match b with
    | .list y =>
      match decideItems x y with
      | .isTrue h => .isTrue (by rw [h])
      | .isFalse h => .isFalse fun e => h (Value.list.inj e)
    | .null | .bool _ | .number _ | .string _ | .object _ => .isFalse nofun
  | .object x, b =>
    match b with
    | .object y =>
      match decideFields x y with
      | .isTrue h => .isTrue (by rw [h])
      | .isFalse h => .isFalse fun e => h (Value.object.inj e)
    | .null | .bool _ | .number _ | .string _ | .list _ => .isFalse nofun
termination_by structural a => a
def decideItems : (as bs : List Value) → Decidable (as = bs)
  | [], [] => .isTrue rfl
  | [], _ :: _ => .isFalse nofun
  | _ :: _, [] => .isFalse nofun
  | a :: as, b :: bs =>
    match decideEq a b, decideItems as bs with
    | .isTrue h, .isTrue hs => .isTrue (by rw [h, hs])
    | .isFalse h, _ => .isFalse fun e => h (List.cons.inj e).1
    | _, .isFalse h => .isFalse fun e => h (List.cons.inj e).2
termination_by structural as => as
def decideFields : (as bs : List (String × Value)) → Decidable (as = bs)
  | [], [] => .isTrue rfl
  | [], _ :: _ => .isFalse nofun
  | _ :: _, [] => .isFalse nofun
  | (k, a) :: as, (l, b) :: bs =>
    if hk : k = l then
      match decideEq a b, decideFields as bs with
      | .isTrue h, .isTrue hs => .isTrue (by rw [hk, h, hs])
      | .isFalse h, _ => .isFalse fun e => h (Prod.mk.inj (List.cons.inj e).1).2
      | _, .isFalse h => .isFalse fun e => h (List.cons.inj e).2
    else .isFalse fun e => hk (Prod.mk.inj (List.cons.inj e).1).1
termination_by structural as => as
end

instance : DecidableEq Value := decideEq

end Value
end PromptForm
