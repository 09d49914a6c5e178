/-! First in, first out queues as two lists. What a queue holds is its list; the lemmas say what each
operation does to it. -/

namespace MetricPipeline

structure Fifo (α : Type) where
  front : List α
  /-- What was pushed last, the latest first. -/
  back : List α

namespace Fifo

variable {α : Type}

def empty : Fifo α := ⟨[], []⟩

def toList (q : Fifo α) : List α := q.front ++ q.back.reverse

def size (q : Fifo α) : Nat := q.front.length + q.back.length

def isEmpty (q : Fifo α) : Bool := q.front.isEmpty && q.back.isEmpty

def push (q : Fifo α) (a : α) : Fifo α := ⟨q.front, a :: q.back⟩

def pop? (q : Fifo α) : Option (α × Fifo α) :=
  match q.front with
  | a :: front => some (a, ⟨front, q.back⟩)
  | [] =>
    match q.back.reverse with
    | [] => none
    | a :: front => some (a, ⟨front, []⟩)

@[simp] theorem toList_empty : (empty : Fifo α).toList = [] := rfl

@[simp] theorem toList_push (q : Fifo α) (a : α) : (q.push a).toList = q.toList ++ [a] := by
  simp [push, toList]

@[simp] theorem length_toList (q : Fifo α) : q.toList.length = q.size := by
  simp [toList, size]

theorem pop?_eq_none_iff (q : Fifo α) : q.pop? = none ↔ q.toList = [] := by
  rcases q with ⟨front, back⟩
  cases front with
  | cons a front => simp [pop?, toList]
  | nil =>
    unfold pop? toList
    cases h : back.reverse with
    | nil => simp
    | cons a rest => simp

theorem toList_of_pop? {q rest : Fifo α} {a : α} (h : q.pop? = some (a, rest)) :
    q.toList = a :: rest.toList := by
  rcases q with ⟨front, back⟩
  cases front with
  | cons b front =>
    simp only [pop?, Option.some.injEq, Prod.mk.injEq] at h
    obtain ⟨rfl, rfl⟩ := h
    rfl
  | nil =>
    unfold pop? at h
    cases hb : back.reverse with
    | nil => simp [hb] at h
    | cons b front =>
      simp only [hb, Option.some.injEq, Prod.mk.injEq] at h
      obtain ⟨rfl, rfl⟩ := h
      simp [toList, hb]

end Fifo
end MetricPipeline
