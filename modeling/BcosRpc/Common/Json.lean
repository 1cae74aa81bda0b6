import Mathlib.Algebra.Group.Int.Defs
import Mathlib.Data.Rat.Defs
import Mathlib.Order.Basic

/-!
# JSON values

The values of `Json::Value` and the accessors of it the source uses. An accessor that is
called on a value of a wrong type throws; it returns `Except` of the text of the exception.
-/

/-- A JSON value. An object has its members in the order of their keys; a real number comes
with the text `asString` gives for it. -/
inductive Json where
  | null
  | boolean (b : Bool)
  | integer (i : Int)
  | real (value : ℚ) (text : String)
  | string (s : String)
  | array (items : List Json)
  | object (members : List (String × Json))
  deriving Inhabited

/-- The least and the greatest `int64_t`. -/
def minInt64 : Int := -2 ^ 63

def maxInt64 : Int := 2 ^ 63 - 1

/-- The least and the greatest `int32_t`. -/
def minInt32 : Int := -2 ^ 31

def maxInt32 : Int := 2 ^ 31 - 1

/-- A value of `int64_t`. -/
def IsInt64 (i : Int) : Prop := minInt64 ≤ i ∧ i ≤ maxInt64

instance (i : Int) : Decidable (IsInt64 i) := inferInstanceAs (Decidable (_ ∧ _))

/-- A value of `int32_t`. -/
def IsInt32 (i : Int) : Prop := minInt32 ≤ i ∧ i ≤ maxInt32

instance (i : Int) : Decidable (IsInt32 i) := inferInstanceAs (Decidable (_ ∧ _))

theorem IsInt32.isInt64 {i : Int} (h : IsInt32 i) :
  IsInt64 i
  := by
  simp only [IsInt32, IsInt64, minInt32, maxInt32, minInt64, maxInt64] at h ⊢
  omega

@[simp]
theorem Except.ok_bind {ε α β : Type} (a : α) (f : α → Except ε β) :
  (Except.ok a >>= f) = f a
  := rfl

theorem Except.bind_eq_ok_iff {ε α β : Type} {x : Except ε α} {f : α → Except ε β} {b : β} :
  (x >>= f) = .ok b ↔ ∃ a, x = .ok a ∧ f a = .ok b
  := by
  cases x with
  | error e => simp [Bind.bind, Except.bind]
  | ok a => simp

theorem Except.throw_bind_ne_ok {ε α β : Type} (e : ε) (f : α → Except ε β) (b : β) :
  (throw e >>= f) ≠ .ok b
  := nofun

/-- A reader throws. -/
def Except.Fails {α : Type} (x : Except String α) : Prop := ∃ e, x = .error e

theorem Except.fails_bind_iff {α β : Type} {x : Except String α} {f : α → Except String β} :
  (x >>= f).Fails ↔ x.Fails ∨ ∃ a, x = .ok a ∧ (f a).Fails
  := by
  cases x with
  | error e => simp [Fails, Bind.bind, Except.bind]
  | ok a => simp [Fails]

theorem Except.not_fails_ok {α : Type} (a : α) :
  ¬ (Except.ok a : Except String α).Fails
  := nofun

theorem Except.fails_elim_iff {α β : Type} {o : Option β} {absent : α}
    {f : β → Except String α} :
  (o.elim (.ok absent) f).Fails ↔ ∃ j, o = some j ∧ (f j).Fails
  := by
  cases o with
  | none => simp [not_fails_ok]
  | some j => simp

namespace Json

/-! ### Types and sizes -/

def isNull : Json → Bool
  | .null => true
  | _ => false

def isArray : Json → Bool
  | .array _ => true
  | _ => false

/-- The number of elements of an array or members of an object, `0` for a scalar. -/
def size : Json → Nat
  | .array items => items.length
  | .object members => members.length
  | _ => 0

@[simp]
theorem size_array (items : List Json) :
  (array items).size = items.length
  := rfl

/-! ### Access to parts -/

/-- The element of an array at an index, null past its end. -/
def item (index : Nat) : Json → Except String Json
  | .array items => .ok (items.getD index .null)
  | .null => .ok .null
  | _ => .error "in Json::Value::operator[](ArrayIndex): requires arrayValue"

/-- Whether an object has a member; null counts as an object without members. -/
def isMember (key : String) : Json → Except String Bool
  | .object members => .ok (members.lookup key).isSome
  | .null => .ok false
  | _ => .error "in Json::Value::find(begin, end): requires objectValue or nullValue"

/-- The member of a value with a key. -/
def find (key : String) : Json → Option Json
  | .object members => members.lookup key
  | _ => none

/-- The member of an object with a key, null when there is none. -/
def member (key : String) : Json → Except String Json
  | .object members => .ok ((members.lookup key).getD .null)
  | .null => .ok .null
  | _ => .error "in Json::Value::resolveReference(): requires objectValue"

/-! ### Conversions -/

def asString : Json → Except String String
  | .null => .ok ""
  | .boolean b => .ok (if b then "true" else "false")
  | .integer i => .ok (toString i)
  | .real _ text => .ok text
  | .string s => .ok s
  | _ => .error "Type is not convertible to string"

/-- A real number converts when it is in the range. jsoncpp compares doubles, for which the greatest
int64 is `2 ^ 63`: it lets this number pass to a conversion that is undefined. -/
def asInt64 : Json → Except String Int
  | .null => .ok 0
  | .boolean b => .ok (if b then 1 else 0)
  | .integer i =>
      if minInt64 ≤ i ∧ i ≤ maxInt64 then .ok i else .error "LargestUInt out of Int64 range"
  | .real value _ =>
      if (minInt64 : ℚ) ≤ value ∧ value ≤ (maxInt64 : ℚ) then
        .ok (value.num.tdiv value.den)
      else .error "double out of Int64 range"
  | _ => .error "Value is not convertible to Int64."

def asInt : Json → Except String Int
  | .null => .ok 0
  | .boolean b => .ok (if b then 1 else 0)
  | .integer i =>
      if minInt32 ≤ i ∧ i ≤ maxInt32 then .ok i
      else if i < minInt32 then .error "LargestInt out of Int range"
      else .error "LargestUInt out of Int range"
  | .real value _ =>
      if (minInt32 : ℚ) ≤ value ∧ value ≤ (maxInt32 : ℚ) then
        .ok (value.num.tdiv value.den)
      else .error "double out of Int range"
  | _ => .error "Value is not convertible to Int."

theorem asInt64_integer {i : Int} (h : IsInt64 i) :
  (integer i).asInt64 = .ok i
  := if_pos h

def asBool : Json → Except String Bool
  | .null => .ok false
  | .boolean b => .ok b
  | .integer i => .ok (i != 0)
  | .real value _ => .ok (value != 0)
  | _ => .error "Value is not convertible to bool."

/-! ### Construction -/

/-- The members of an object after an assignment to a member. -/
def setMember (key : String) (x : Json) : List (String × Json) → List (String × Json)
  | [] => [(key, x)]
  | (k, y) :: rest =>
      if key < k then (key, x) :: (k, y) :: rest
      else if key = k then (key, x) :: rest
      else (k, y) :: setMember key x rest

/-- Assignment to a member; the first one makes an object of null. -/
def set (j : Json) (key : String) (x : Json) : Json :=
  match j with
  | .object members => .object (setMember key x members)
  | _ => .object [(key, x)]

@[simp]
theorem lookup_setMember_self (key : String) (x : Json) (ms : List (String × Json)) :
  (setMember key x ms).lookup key = some x
  := by
  induction ms with
  | nil => simp [setMember]
  | cons m rest ih =>
      obtain ⟨k, y⟩ := m
      simp only [setMember]
      split
      · simp
      · split
        · simp
        · rename_i hne
          rw [List.lookup_cons, beq_false_of_ne hne]
          apply ih

theorem lookup_setMember_of_ne {key key' : String} (hne : key' ≠ key) (x : Json)
    (ms : List (String × Json)) :
  (setMember key x ms).lookup key' = ms.lookup key'
  := by
  induction ms with
  | nil => simp [setMember, List.lookup_cons, beq_false_of_ne hne]
  | cons m rest ih =>
      obtain ⟨k, y⟩ := m
      simp only [setMember]
      split
      · rw [List.lookup_cons, beq_false_of_ne hne]
      · split
        · rename_i heq
          subst heq
          simp [List.lookup_cons, beq_false_of_ne hne]
        · rw [List.lookup_cons, List.lookup_cons, ih]

@[simp]
theorem find_null (key : String) :
  null.find key = none
  := rfl

@[simp]
theorem find_set (j : Json) (key key' : String) (x : Json) :
  (j.set key x).find key' = if key = key' then some x else j.find key'
  := by
  by_cases h : key = key'
  · subst h
    cases j <;> simp [set, find]
  · have hne : (key' == key) = false := beq_false_of_ne (Ne.symm h)
    cases j <;> simp [set, find, lookup_setMember_of_ne (Ne.symm h), List.lookup_cons, hne, h]

@[simp]
theorem member_set (j : Json) (key key' : String) (x : Json) :
  (j.set key x).member key' = .ok (((j.set key x).find key').getD .null)
  := by
  cases j <;> rfl

/-! ### Reading members -/

/-- A reader that goes on with a member of an object, if there is one. -/
theorem requireMember_object {β : Type} (ms : List (String × Json)) (key : String)
    (absent : Except String β) (f : Json → Except String β) :
  ((object ms).isMember key >>= fun isMember =>
      if (!isMember) = true then absent else (object ms).member key >>= f)
    = (ms.lookup key).elim absent f
  := by
  simp only [isMember, member, Except.ok_bind]
  cases ms.lookup key <;> simp

/-- A reader that goes on with the value of a member of an object, or else with another one. -/
theorem optionalMember_object {α β : Type} (ms : List (String × Json)) (key : String)
    (absent : Except String α) (f : Json → Except String α) (k : α → Except String β) :
  ((object ms).isMember key >>= fun isMember =>
      if isMember = true then (object ms).member key >>= fun j => f j >>= k else absent >>= k)
    = (ms.lookup key).elim absent f >>= k
  := by
  simp only [isMember, member, Except.ok_bind]
  cases ms.lookup key <;> simp

/-- A reader that goes on with a member, if there is one. -/
theorem requireMember_eq_ok_iff {β : Type} {root : Json} {key : String}
    {absent : Except String β} {f : Json → Except String β} {b : β} (habsent : absent ≠ .ok b) :
  (root.isMember key >>= fun isMember =>
      if (!isMember) = true then absent else root.member key >>= f) = .ok b
    ↔ ∃ j, root.find key = some j ∧ f j = .ok b
  := by
  cases root with
  | object ms =>
      rw [requireMember_object, find]
      cases ms.lookup key <;> simp [habsent]
  | null => simpa [isMember, find] using habsent
  | _ => simp [isMember, find, Bind.bind, Except.bind]

/-- A reader that goes on with the value of a member, or else with another one. The value it
reads has members. -/
theorem optionalMember_bind {α β : Type} {root : Json} {key key' : String} {j : Json}
    (h : root.find key' = some j) (absent : Except String α) (f : Json → Except String α)
    (k : α → Except String β) :
  (root.isMember key >>= fun isMember =>
      if isMember = true then root.member key >>= fun j => f j >>= k else absent >>= k)
    = (root.find key).elim absent f >>= k
  := by
  cases root with
  | object ms => apply optionalMember_object
  | _ => cases h

/-! ### The texts in a value -/

mutual

/-- The texts that occur anywhere in a value. -/
def strings : Json → List String
  | .string s => [s]
  | .array items => stringsOfItems items
  | .object members => stringsOfMembers members
  | _ => []

def stringsOfItems : List Json → List String
  | [] => []
  | j :: rest => j.strings ++ stringsOfItems rest

def stringsOfMembers : List (String × Json) → List String
  | [] => []
  | (_, j) :: rest => j.strings ++ stringsOfMembers rest

end

theorem mem_stringsOfItems_iff {s : String} (items : List Json) :
  s ∈ stringsOfItems items ↔ ∃ j ∈ items, s ∈ j.strings
  := by
  induction items with
  | nil => simp [stringsOfItems]
  | cons j rest ih => simp [stringsOfItems, ih]

/-- A value that converts to a text contains no other text. -/
theorem eq_of_mem_strings {j : Json} {s t : String} (hs : j.asString = .ok s)
    (ht : t ∈ j.strings) :
  t = s
  := by
  cases j with
  | string u =>
      cases hs
      simpa [strings] using ht
  | array items => cases hs
  | object members => cases hs
  | _ => simp [strings] at ht

/-- The texts of an array of texts. -/
theorem strings_array_map (l : List String) :
  (array (l.map string)).strings = l
  := by
  rw [strings]
  induction l with
  | nil => rfl
  | cons s rest ih => simp [stringsOfItems, strings, ih]

end Json
