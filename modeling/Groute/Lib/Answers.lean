import Mathlib.Logic.Basic
import Mathlib.Tactic.TypeStar

/-!
# A value that answers overwrite

A screen shows a value, and answers that may overwrite it wait in a queue.  An answer
can be out of date: what it says was right when it was given.

`Settles` says that this does no lasting harm.  Now and after each of the answers the
value is the right one `cur`, unless an answer that `heals` is still to come.  Where
`excused` holds nothing is promised.
-/

universe u v

namespace Answers

variable {α : Type u} {β : Type v} {decode : α → Option β} {heals heals' : α → Prop} {cur : β}
  {excused excused' : Prop} {shown : β} {answer : α} {answers : List α}

/-- The value is right, or will be when a healing answer has come, now and after each
answer. -/
def Settles (decode : α → Option β) (heals : α → Prop) (cur : β) (excused : Prop) :
    β → List α → Prop
  | shown, [] => excused ∨ shown = cur
  | shown, answer :: answers =>
      (excused ∨ shown = cur ∨ ∃ a ∈ answer :: answers, heals a) ∧
        Settles decode heals cur excused ((decode answer).getD shown) answers

/-- An excuse is enough. -/
theorem settles_of_excused (h : excused) : Settles decode heals cur excused shown answers := by
  induction answers generalizing shown with
  | nil => exact .inl h
  | cons answer answers ih => exact ⟨.inl h, ih⟩

/-- A better excuse will do. -/
theorem Settles.mono (hexcused : excused → excused')
    (h : Settles decode heals cur excused shown answers) :
    Settles decode heals cur excused' shown answers := by
  induction answers generalizing shown with
  | nil => exact h.imp_left hexcused
  | cons answer answers ih => exact ⟨h.1.imp_left hexcused, ih h.2⟩

/-- The first answer is taken from the queue. -/
theorem Settles.tail (h : Settles decode heals cur excused shown (answer :: answers)) :
    Settles decode heals cur excused ((decode answer).getD shown) answers :=
  h.2

/-- With no healing answer in the queue the value is right. -/
theorem Settles.eq (h : Settles decode heals cur excused shown answers) (hexcused : ¬excused)
    (hheals : ∀ a ∈ answers, ¬heals a) : shown = cur := by
  cases answers with
  | nil => exact h.resolve_left hexcused
  | cons answer answers =>
      refine (h.1.resolve_left hexcused).resolve_right ?_
      rintro ⟨a, ha, hheal⟩
      exact hheals a ha hheal

/-- An answer that is right, or says nothing about the value, enters the queue. -/
theorem Settles.snoc (h : Settles decode heals cur excused shown answers)
    (hanswer : ∀ b, decode answer = some b → b = cur) :
    Settles decode heals cur excused shown (answers ++ [answer]) := by
  induction answers generalizing shown with
  | nil =>
      refine ⟨h.imp_right .inl, ?_⟩
      cases hdecode : decode answer with
      | none => exact h
      | some b => exact .inr (hanswer b hdecode)
  | cons first answers ih =>
      refine ⟨h.1.imp_right (Or.imp_right ?_), ih h.2⟩
      rintro ⟨a, ha, hheal⟩
      exact ⟨a, List.mem_append_left [answer] ha, hheal⟩

/-- A healing answer settles the matter, whatever was shown before. -/
theorem settles_snoc_of_heals (hheals : heals answer) (hanswer : decode answer = some cur) :
    Settles decode heals cur excused shown (answers ++ [answer]) := by
  induction answers generalizing shown with
  | nil => exact ⟨.inr (.inr ⟨answer, List.mem_cons_self, hheals⟩), .inr (by rw [hanswer]; rfl)⟩
  | cons first answers ih =>
      refine ⟨.inr (.inr ⟨answer, ?_, hheals⟩), ih⟩
      exact List.mem_cons_of_mem first List.mem_concat_self

end Answers
