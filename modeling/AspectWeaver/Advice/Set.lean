import AspectWeaver.Advice.Basic

/-!
# The advices of one method

Five lists, one for every kind of advice, each by falling order number; advices with the same number
stand in the order in which they came. `push` keeps this: a new advice goes behind all of its kind
whose number is not smaller.
-/

set_option autoImplicit false

namespace AspectWeaver

/-- An advice within the list of its kind. -/
structure Advised (β : Type) where
  name : String
  order : Int
  body : AdviceBody β
deriving Inhabited, Repr

/-- How an advice is described within the description of a list. -/
def Advised.describe {β : Type} (a : Advised β) : String := a.name ++ "@" ++ toString a.order

/-- The advice without its kind. -/
def Advice.advised {β : Type} (a : Advice β) : Advised β := ⟨a.name, a.order, a.body⟩

/-- Puts an advice behind all that have at least its order number. -/
def insertOrdered {β : Type} (a : Advised β) : List (Advised β) → List (Advised β)
  | [] => [a]
  | b :: rest => if b.order < a.order then a :: b :: rest else b :: insertOrdered a rest

/-- Inserting an advice makes the list one longer. -/
theorem length_insertOrdered {β : Type} (a : Advised β) (advices : List (Advised β)) :
    (insertOrdered a advices).length = advices.length + 1 := by
  induction advices with
  | nil => rfl
  | cons b rest ih =>
    simp only [insertOrdered]
    split <;> simp [ih]

/-- The advices bound to one method. -/
structure AdviceSet (β : Type) where
  before : List (Advised β)
  after : List (Advised β)
  around : List (Advised β)
  afterReturning : List (Advised β)
  afterThrowing : List (Advised β)
deriving Inhabited, Repr

namespace AdviceSet

variable {β : Type}

def empty : AdviceSet β := ⟨[], [], [], [], []⟩

def ofKind (s : AdviceSet β) : AdviceKind → List (Advised β)
  | .before => s.before
  | .after => s.after
  | .around => s.around
  | .afterReturning => s.afterReturning
  | .afterThrowing => s.afterThrowing

/-- Adds an advice to the list of its kind. -/
def push (s : AdviceSet β) (a : Advice β) : AdviceSet β :=
  match a.kind with
  | .before => { s with before := insertOrdered a.advised s.before }
  | .after => { s with after := insertOrdered a.advised s.after }
  | .around => { s with around := insertOrdered a.advised s.around }
  | .afterReturning => { s with afterReturning := insertOrdered a.advised s.afterReturning }
  | .afterThrowing => { s with afterThrowing := insertOrdered a.advised s.afterThrowing }

def size (s : AdviceSet β) : Nat :=
  s.before.length + s.after.length + s.around.length + s.afterReturning.length +
    s.afterThrowing.length

def isEmpty (s : AdviceSet β) : Bool := s.size == 0

/-- How the advices of a method are described. -/
def describe (s : AdviceSet β) : String :=
  let list (advices : List (Advised β)) := Text.listed (advices.map Advised.describe)
  Text.record "AdviceSet"
    [("before", list s.before), ("after", list s.after), ("around", list s.around),
      ("after_returning", list s.afterReturning), ("after_throwing", list s.afterThrowing)]

/-- A new advice changes the list of its kind and no other. -/
theorem ofKind_push (s : AdviceSet β) (a : Advice β) (k : AdviceKind) :
    (s.push a).ofKind k = if a.kind = k then insertOrdered a.advised (s.ofKind k) else s.ofKind k := by
  cases h : a.kind <;> cases k <;> simp [push, ofKind, h]

/-- There is nothing in the empty set. -/
@[simp] theorem size_empty : (empty : AdviceSet β).size = 0 := rfl

/-- A set grows by each advice that is put into it, whatever its kind. -/
@[simp] theorem size_push (s : AdviceSet β) (a : Advice β) : (s.push a).size = s.size + 1 := by
  cases h : a.kind <;> simp only [push, size, h, length_insertOrdered] <;> omega

end AdviceSet

end AspectWeaver
